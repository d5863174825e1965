import Gamebook.Proofs.App.Boots

/-! Runs of a player. Whatever calls someone who plays makes, and in whatever order they are begun and
resumed, every step leaves the flight as `Aloft` says: `aloft_of_run`. -/
namespace Gamebook.App

variable {answers : (r : Request) → r.Reply → Prop} {c : Settings} {first : Catalog}
variable {told : Multiset Taken} {queue : List ScreenChange} {others : Multiset Waiting} {a : App}

theorem Carried.advanced {made : Made App (Progress Booting (Except LoadFault Unit))}
    (h : Carried answers c first told others a made) :
    Advanced answers c first told others a made.state
      (made.value.map Waiting.booting Answer.loaded).pending where
  aloft := by
    rw [Progress.pending_map]
    exact h.aloft
  hears := h.hears

theorem tag_going (first : Catalog) (screen : Option ScreenId) :
    Tag first fun w => .going (.pumping screen w) :=
  ⟨fun _ => rfl, fun _ => rfl, fun _ => rfl, fun _ h => h⟩

theorem tag_tapping (first : Catalog) (outcome : PointerOutcome) :
    Tag first fun w => .tapping (.pumping outcome w) :=
  ⟨fun _ => rfl, fun _ => rfl, fun _ => rfl, fun _ h => h⟩

theorem tag_pumping (first : Catalog) : Tag first .pumping :=
  ⟨fun _ => rfl, fun _ => rfl, fun _ => rfl, fun _ h => h⟩

theorem advanced_begin {call : Call} (hplays : call.Plays) (h : Aloft answers c first told queue others a) :
    Advanced answers c first told others a (begin c call a).state (begin c call a).value.pending := by
  cases call with
  | boot link => exact (carried_boot h link).advanced
  | go raw =>
    have hwent : Navigation.Went c.navigation ⟨a.stage, a.navigation⟩
        (Navigation.follow c.navigation raw ⟨a.stage, a.navigation⟩) := Navigation.went_go ..
    refine advanced_move (x := Navigation.follow c.navigation raw) h (tag_going first) ⟨_, hwent, rfl, rfl⟩
      (fun w => .going (.following w)) (fun w => ⟨rfl, rfl, rfl, trivial⟩) (fun screen hv => ?_)
      fun w hv => ?_
    · simp only [begin, go, thenPump, Act.bind_apply, hv, Act.pure_apply, Progress.pending_map,
        Multiset.map_map]
      exact ⟨trivial, rfl⟩
    · simp only [begin, go, Act.bind_apply, hv]
      exact ⟨rfl, rfl⟩
  | tap p =>
    cases hslot : Storybook.slotAt? ⟨a.stage, a.storybook⟩ p with
    | some slot =>
      refine advanced_chooses h (Storybook.chooses_selectAt c.story p a.stories)
        (fun w => .tapping (.choosing w)) (fun w => ⟨⟨rfl, rfl, rfl⟩, trivial⟩) ?_ ?_
      · simp only [begin, tap, Act.bind_apply, Act.get_apply, hslot]
        rfl
      · simp only [begin, tap, Act.bind_apply, Act.get_apply, hslot, Act.pure_apply, Progress.pending_map,
          Multiset.map_map]
        rfl
    | none =>
      refine advanced_move (x := Navigation.dispatch c.navigation .up p) h (tag_tapping first)
        (Navigation.went_dispatch ..) (fun w => .tapping (.dispatching w))
        (fun w => ⟨rfl, rfl, rfl, trivial⟩) (fun outcome hv => ?_) fun w hv => ?_
      · simp only [begin, tap, thenPumpTap, Act.bind_apply, Act.get_apply, hslot, hv, Act.pure_apply,
          Progress.pending_map, Multiset.map_map]
        exact ⟨trivial, rfl⟩
      · simp only [begin, tap, Act.bind_apply, Act.get_apply, hslot, hv]
        exact ⟨rfl, rfl⟩
  | choose slot =>
    refine advanced_chooses h (Storybook.chooses_choose c.story slot a.stories) .saving
      (fun w => ⟨⟨rfl, rfl, rfl⟩, trivial⟩) rfl ?_
    exact Progress.pending_map ..
  | pump =>
    exact (pumped_pump h.kept fun _ => h.seated.length_le).advanced (tag_pumping first) h.regular h.seated
      rfl rfl rfl (Progress.pending_map ..)
  | _ => exact hplays.elim

/-- A boot goes on from waiting for its turn only when there is no other. -/
theorem turn_of_ready {w : Booting} (hready : (protocol c).ready a (.booting w) = true)
    (hw : w.request = .turn) : a.booting = false := by
  have hready : (decide (w.request ≠ .turn) || !a.booting) = true := hready
  simpa [hw] using hready

theorem advanced_resume {w : Waiting} (h : Aloft answers c first told queue ({w} + others) a)
    (hready : (protocol c).ready a w = true) {reply : w.request.Reply} (hreply : answers w.request reply) :
    Advanced answers c first told others a (resume c w reply a).state (resume c w reply a).value.pending := by
  have hregular := h.regular w (Multiset.mem_add.2 (.inl (Multiset.mem_singleton_self w)))
  match w, reply with
  | .booting w, reply =>
    exact (carried_resume h (turn_of_ready hready) hreply).advanced
  | .going (.following f), reply =>
    refine advanced_settle h (tag_going first (some f.screen)) ⟨rfl, rfl, rfl⟩ reply rfl ?_
    have hscreen : (navigating (Navigation.settle f reply) a).value = some f.screen :=
      Navigation.settle_value ..
    simp only [resume, Going.resume, thenPump, Act.bind_apply, Act.pure_apply, hscreen,
      Progress.pending_map, Multiset.map_map]
    rfl
  | .going (.pumping screen t), reply =>
    refine advanced_resumePump h (tag_going first screen) rfl hregular hreply rfl ?_
    simp only [resume, Going.resume, Act.bind_apply, Act.pure_apply, Progress.pending_map, Multiset.map_map]
    rfl
  | .tapping (.choosing s), reply => exact advanced_saved h ⟨rfl, rfl, rfl⟩ s reply rfl rfl
  | .tapping (.dispatching f), reply =>
    refine advanced_settle h (tag_tapping first (.navigated (some f.screen))) ⟨rfl, rfl, rfl⟩ reply rfl ?_
    have hscreen : (navigating (Navigation.settle f reply) a).value = some f.screen :=
      Navigation.settle_value ..
    simp only [resume, Tapping.resume, thenPumpTap, Act.bind_apply, Act.pure_apply, hscreen,
      Progress.pending_map, Multiset.map_map]
    rfl
  | .tapping (.pumping outcome t), reply =>
    refine advanced_resumePump h (tag_tapping first outcome) rfl hregular hreply rfl ?_
    simp only [resume, Tapping.resume, Act.bind_apply, Act.pure_apply, Progress.pending_map, Multiset.map_map]
    rfl
  | .saving s, reply => exact advanced_saved h ⟨rfl, rfl, rfl⟩ s reply rfl rfl
  | .pumping t, reply =>
    refine advanced_resumePump h (tag_pumping first) rfl hregular hreply rfl ?_
    exact Progress.pending_map ..
  | .opening _, _ => exact hregular.elim
  | .following _, _ => exact hregular.elim
  | .dispatching _, _ => exact hregular.elim
  | .fitting _, _ => exact hregular.elim
  | .preloading _, _ => exact hregular.elim
  | .locating _, _ => exact hregular.elim
  | .entering _, _ => exact hregular.elim
  | .mounting _, _ => exact hregular.elim
  | .starting _, _ => exact hregular.elim
  | .retrying _, _ => exact hregular.elim
  | .notifying _, _ => exact hregular.elim

/-- What the steps of a run keep; a player that tells its stories never stops. -/
theorem aloft_of_run {log : List (App × App)} {f : (protocol c).Flight}
    (h : (protocol c).Run Call.Plays answers ⟨ofCatalog first, []⟩ log f) :
    (∃ queue, Aloft answers c first ↑(history log) queue f.pending f.state) ∧
      ∀ e ∈ log, e.1.hears = true → e.2.hears = true := by
  refine Protocol.Run.induction (P := protocol c)
    (motive := fun log a pending => (∃ queue, Aloft answers c first ↑(history log) queue pending a) ∧
      ∀ e ∈ log, e.1.hears = true → e.2.hears = true)
    ⟨⟨[], aloft_start⟩, fun e he => absurd he List.not_mem_nil⟩ ?_ ?_ h
  · rintro log a others call hplays ⟨⟨queue, h⟩, hlog⟩
    have hstep := advanced_begin hplays h
    exact ⟨hstep.aloft, List.forall_mem_cons.2 ⟨hstep.hears, hlog⟩⟩
  · rintro log a others w reply hready hreply ⟨⟨queue, h⟩, hlog⟩
    have hstep := advanced_resume h hready hreply
    exact ⟨hstep.aloft, List.forall_mem_cons.2 ⟨hstep.hears, hlog⟩⟩

end Gamebook.App
