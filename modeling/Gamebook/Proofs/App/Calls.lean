import Gamebook.Proofs.App.Flights

/-! What each call keeps, step by step. All of them are made of a few parts: a move, the end of a fetch, a
pump, a step of a mount, a choice. What holds of each part is said once, and the calls follow. -/
namespace Gamebook.App

variable {answers : (r : Request) → r.Reply → Prop} {c : Settings} {first : Catalog}
variable {told : Multiset Taken} {queue : List ScreenChange} {others : Multiset Waiting} {a b : App}

theorem Seated.room {seats : Multiset Booting} (h : Seated a queue seats) :
    queue.length < Transitions.capacity :=
  Nat.lt_of_le_of_lt h.length_le (by decide)

variable (answers c first) in
structure Pumped (told : Multiset Taken) (fits : Multiset Fitting) (mounts : Multiset Mounting) (a : App)
    (made : Made App (Progress Telling Unit)) : Prop where
  kept : Kept answers c first (↑(received a made.state) + told) [] fits
    (made.value.pending.map (·.inner) + mounts) made.state
  position : ∀ w ∈ made.value.pending, w.position = 1
  hears : made.state.hears = a.hears
  booted : made.state.booted = a.booted
  booting : made.state.booting = a.booting

theorem pumped_pump {fits : Multiset Fitting} {mounts : Multiset Mounting}
    (h : Kept answers c first told queue fits mounts a) (hqueue : a.hears = true → queue.length ≤ 1) :
    Pumped answers c first told fits mounts a (pump c a) := by
  obtain ⟨status, hroster⟩ := h.crew
  have hnothing : Pumped answers c first told fits mounts a
      ⟨{ a with taken := a.taken + queue.length }, [], .done ()⟩ ↔
      Kept answers c first (↑(queue.map (⟨·, a.hears⟩ : ScreenChange → Taken)) + told) [] fits mounts
        { a with taken := a.taken + queue.length } := by
    have hreceived : received a { a with taken := a.taken + queue.length } =
        queue.map (⟨·, a.hears⟩) := received_eq h.channel rfl
    constructor
    · intro hp
      simpa [hreceived] using hp.kept
    · intro hk
      refine ⟨?_, fun w hw => absurd hw (Multiset.notMem_zero w), rfl, rfl, rfl⟩
      simpa [hreceived] using hk
  cases hhears : a.hears with
  | false =>
    rw [hhears] at hroster hnothing
    rw [pump_deaf hroster h.channel]
    exact hnothing.2 (h.take hhears)
  | true =>
    rw [hhears] at hroster
    match queue, hqueue hhears with
    | [], _ =>
      rw [pump_nil h.channel]
      refine hnothing.2 ?_
      simpa using h
    | [ch], _ =>
      obtain ⟨notices, hpump⟩ := pump_hearing (c := c) hroster h.channel
      have hreceived : received a
          (reading (Storybook.enter c.navigation ch) { a with taken := a.taken + 1 }).state =
          [⟨ch, a.hears⟩] :=
        received_eq (b := (reading (Storybook.enter c.navigation ch) { a with taken := a.taken + 1 }).state)
          h.channel rfl
      rw [hpump]
      refine ⟨?_, fun w hw => ?_, rfl, rfl, rfl⟩
      · rw [Progress.pending_map, Multiset.map_map, hreceived, hhears]
        simpa using h.tell hhears
      · rw [Progress.pending_map] at hw
        obtain ⟨inner, -, rfl⟩ := Multiset.mem_map.1 hw
        rfl

/-- A player with a mount in flight tells its stories of transitions. -/
theorem Kept.hears_of_mount {fits : Multiset Fitting} {mounts : Multiset Mounting}
    (h : Kept answers c first told queue fits mounts a) {w : Mounting} (hw : w ∈ mounts) :
    a.hears = true := by
  cases hhears : a.hears with
  | true => rfl
  | false => cases (h.deaf hhears).1 _ (h.tells.apt w hw).1

theorem pumped_resumePump {fits : Multiset Fitting} {mounts : Multiset Mounting} {w : Telling}
    (h : Kept answers c first told [] fits ({w.inner} + mounts) a) (hw : w.position = 1)
    {reply : w.request.Reply} (hreply : answers w.request reply) :
    Pumped answers c first told fits mounts a (resumePump c w reply a) := by
  obtain ⟨status, hroster⟩ := h.crew
  obtain ⟨notices, hresume⟩ := resumePump_eq (c := c) hroster hw reply h.channel
  rw [hresume]
  have hreceived : received a (reading (w.inner.resume c.story reply) a).state = [] :=
    received_of_taken_eq rfl
  refine ⟨?_, fun w' hw' => ?_, rfl, rfl, rfl⟩
  · rw [Progress.pending_map, Multiset.map_map, hreceived]
    simpa using h.resume hreply
  · rw [Progress.pending_map] at hw'
    obtain ⟨inner, -, rfl⟩ := Multiset.mem_map.1 hw'
    exact hw

/-- How a call that is not a boot waits while it pumps. -/
structure Tag (first : Catalog) (tag : Telling → Waiting) : Prop where
  fits : ∀ w, (tag w).fits = 0
  mounts : ∀ w, (tag w).mounts = {w.inner}
  seats : ∀ w, (tag w).seats = 0
  regular : ∀ w, w.position = 1 → (tag w).Regular first

section Tags

variable {tag : Telling → Waiting} {made : Made App (Progress Waiting Answer)}

theorem Pumped.advanced {pumping : Made App (Progress Telling Unit)}
    (h : Pumped answers c first told (others.bind Waiting.fits) (others.bind Waiting.mounts) b pumping)
    (htag : Tag first tag) (hregular : ∀ w ∈ others, w.Regular first)
    (hseated : Seated b queue (others.bind Waiting.seats)) (htaken : b.taken = a.taken)
    (hhears : b.hears = a.hears) (hstate : made.state = pumping.state)
    (hpending : made.value.pending = pumping.value.pending.map tag) :
    Advanced answers c first told others a made.state made.value.pending := by
  rw [hstate, hpending]
  refine ⟨⟨[], ?_, fun w hw => ?_, ?_⟩, fun hh => h.hears.trans (hhears.trans hh)⟩
  · rw [received_congr htaken.symm, Multiset.add_bind, Multiset.add_bind, Multiset.bind_map,
      Multiset.bind_map]
    simpa only [htag.fits, htag.mounts, Multiset.bind_zero, zero_add, Multiset.bind_singleton] using h.kept
  · rcases Multiset.mem_add.1 hw with hw | hw
    · obtain ⟨t, ht, rfl⟩ := Multiset.mem_map.1 hw
      exact htag.regular t (h.position t ht)
    · exact hregular w hw
  · rw [Multiset.add_bind, Multiset.bind_map]
    simpa only [htag.seats, Multiset.bind_zero, zero_add] using
      hseated.drain.of_same h.hears h.booted h.booting

/-- A move is refused, waits for regions, or is followed by a pump. -/
theorem advanced_move {β : Type} {x : Act (Staged Navigation) (Progress Fitting β)}
    (h : Aloft answers c first told queue others a) {tag : β → Telling → Waiting}
    (htag : ∀ v, Tag first (tag v))
    (hx : ∃ made, Navigation.Went c.navigation ⟨a.stage, a.navigation⟩ made ∧
      (x ⟨a.stage, a.navigation⟩).state = made.state ∧
      (x ⟨a.stage, a.navigation⟩).value.pending = made.value.pending)
    (follow : Fitting → Waiting) (hfollow : ∀ w, (follow w).fits = {w} ∧ (follow w).mounts = 0 ∧
      (follow w).seats = 0 ∧ (follow w).Regular first)
    (hdone : ∀ v, (navigating x a).value = .done v →
      made.state = (pump c (navigating x a).state).state ∧
      made.value.pending = (pump c (navigating x a).state).value.pending.map (tag v))
    (hwaiting : ∀ w, (navigating x a).value = .waiting w →
      made.state = (navigating x a).state ∧ made.value = .waiting (follow w)) :
    Advanced answers c first told others a made.state made.value.pending := by
  obtain ⟨went, hwent, hstate, hpending⟩ := hx
  obtain ⟨sent, hsent, hnone, hkept⟩ := h.kept.went h.seated.room hwent
  have hmoved : (navigating x a).state =
      { a with stage := went.state.stage, navigation := went.state.part } := by
    rw [← hstate]
    rfl
  have hpending : (navigating x a).value.pending = went.value.pending := hpending
  rw [← hmoved, ← hpending] at hkept
  rw [← hpending] at hnone
  have hseated : Seated (navigating x a).state queue (others.bind Waiting.seats) :=
    h.seated.of_same rfl rfl rfl
  cases hv : (navigating x a).value with
  | waiting w =>
    obtain ⟨hs, hw⟩ := hwaiting w hv
    obtain ⟨hfits, hmounts, hseats, hregular⟩ := hfollow w
    rw [hv] at hkept hnone
    rw [hnone (Multiset.singleton_ne_zero w), List.append_nil] at hkept
    have haloft : Aloft answers c first told queue ({follow w} + others) (navigating x a).state := by
      rw [aloft_singleton_add, hfits, hmounts, hseats, zero_add, zero_add]
      exact ⟨hkept, hregular, h.regular, hseated⟩
    rw [hs, hw]
    exact haloft.advanced rfl rfl
  | done v =>
    obtain ⟨hs, hp⟩ := hdone v hv
    rw [hv, Progress.pending_done, zero_add] at hkept
    refine (pumped_pump hkept fun hhears => ?_).advanced (htag v) h.regular hseated rfl rfl hs hp
    rw [h.seated.queue_eq_nil hhears]
    exact hsent

theorem advanced_settle {w : Waiting} {f : Fitting} (h : Aloft answers c first told queue ({w} + others) a)
    (htag : Tag first tag) (hw : w.fits = {f} ∧ w.mounts = 0 ∧ w.seats = 0) (reply : f.request.Reply)
    (hstate : made.state = (pump c (navigating (Navigation.settle f reply) a).state).state)
    (hpending : made.value.pending =
      (pump c (navigating (Navigation.settle f reply) a).state).value.pending.map tag) :
    Advanced answers c first told others a made.state made.value.pending := by
  obtain ⟨hfits, hmounts, hseats⟩ := hw
  rw [aloft_singleton_add, hfits, hmounts, hseats, zero_add, zero_add] at h
  obtain ⟨hkept, -, hregular, hseated⟩ := h
  refine (pumped_pump (hkept.settle hseated.room reply) fun hhears => ?_).advanced htag hregular
    (hseated.of_same rfl rfl rfl) rfl rfl hstate hpending
  have hhears : a.hears = true := hhears
  rw [hseated.queue_eq_nil hhears]
  exact Nat.le_refl 1

theorem advanced_resumePump {w : Waiting} {t : Telling}
    (h : Aloft answers c first told queue ({w} + others) a) (htag : Tag first tag) (hw : w = tag t)
    (hposition : t.position = 1) {reply : t.request.Reply} (hreply : answers t.request reply)
    (hstate : made.state = (resumePump c t reply a).state)
    (hpending : made.value.pending = (resumePump c t reply a).value.pending.map tag) :
    Advanced answers c first told others a made.state made.value.pending := by
  rw [hw, aloft_singleton_add, htag.fits, htag.mounts, htag.seats, zero_add, zero_add] at h
  obtain ⟨hkept, -, hregular, hseated⟩ := h
  have hhears := hkept.hears_of_mount (Multiset.mem_add.2 (.inl (Multiset.mem_singleton_self t.inner)))
  rw [hseated.queue_eq_nil hhears] at hkept
  exact (pumped_resumePump hkept hposition hreply).advanced htag hregular hseated rfl rfl hstate hpending

end Tags

theorem advanced_chooses {x : Act (Staged Storybook) (Progress Saving (Option NodeId))}
    {made : Made App (Progress Waiting Answer)} (h : Aloft answers c first told queue others a)
    (hx : Storybook.Chooses c.story a.stories (x a.stories)) (tag : Saving → Waiting)
    (htag : ∀ w, (tag w).Light ∧ (tag w).Regular first)
    (hstate : made.state = (reading x a).state)
    (hpending : made.value.pending = (reading x a).value.pending.map tag) :
    Advanced answers c first told others a made.state made.value.pending := by
  obtain ⟨hgeneration, hactive, places, hpart⟩ := Storybook.same_of_chooses hx
  have hstorybook : (reading x a).state.storybook = { a.storybook with places } := hpart
  have hkept : Kept answers c first told queue (others.bind Waiting.fits) (others.bind Waiting.mounts)
      (reading x a).state := by
    refine h.kept.of_same rfl rfl rfl hgeneration hactive (by rw [hstorybook])
      (Storybook.shown_of_chooses h.kept.tells.shown hx) ?_
    rw [hstorybook]
    exact ⟨h.kept.tells.sourced.catalog, h.kept.tells.sourced.graphs⟩
  have haloft : Aloft answers c first told queue others (reading x a).state :=
    ⟨hkept, h.regular, h.seated.of_same rfl rfl rfl⟩
  rw [hstate, hpending]
  cases hv : (reading x a).value with
  | done node =>
    rw [← zero_add others] at haloft
    exact haloft.advanced rfl rfl
  | waiting w =>
    obtain ⟨hlight, hregular⟩ := htag w
    exact ((aloft_light_add hlight hregular).2 haloft).advanced rfl rfl

theorem advanced_saved {w : Waiting} {made : Made App (Progress Waiting Answer)}
    (h : Aloft answers c first told queue ({w} + others) a)
    (hw : w.Light) (saving : Saving) (reply : saving.request.Reply)
    (hstate : made.state = (reading (saving.resume reply) a).state) (hpending : made.value.pending = 0) :
    Advanced answers c first told others a made.state made.value.pending := by
  have h := (aloft_light_add hw (aloft_singleton_add.1 h).2.1).1 h
  obtain ⟨hgeneration, hactive, hpart⟩ := Saving.same_of_resume saving reply a.stories
  have hstorybook : (reading (saving.resume reply) a).state.storybook = a.storybook := hpart
  have hkept : Kept answers c first told queue (others.bind Waiting.fits) (others.bind Waiting.mounts)
      (reading (saving.resume reply) a).state := by
    refine h.kept.of_same rfl rfl rfl hgeneration hactive (by rw [hstorybook])
      (h.kept.tells.shown.saved saving reply) ?_
    rw [hstorybook]
    exact h.kept.tells.sourced
  have haloft : Aloft answers c first told queue (0 + others) (reading (saving.resume reply) a).state := by
    rw [zero_add]
    exact ⟨hkept, h.regular, h.seated.of_same rfl rfl rfl⟩
  rw [hstate, hpending]
  exact haloft.advanced rfl rfl

end Gamebook.App
