import Gamebook.Proofs.Outside.Disks
import Gamebook.Proofs.Outside.Markers
import Gamebook.Outside.Basic
import Mathlib.Data.List.Find
import Mathlib.Control.Monad.Basic

/-! Places kept in files against places kept in memory. A save writes one file, and whatever path led to a place
before still leads there; so at each place that saves lead to, the marker is that of the last of them. Therefore a
load from files is one from memory if and only if the file of its marker was last written for that story. -/
namespace Gamebook

namespace Outside

def after (o : Outside) (rs : List Request) : Outside := rs.foldr (fun r o => (o.answer r).2) o

/-- The file system refused; that a marker is missing is no refusal. -/
def refuses {α : Type} : Except StoreFault α → Bool
  | .error (.unreadable ..) | .error (.noDirectory ..) | .error (.unwritable ..) => true
  | _ => false

def Unrefused : (r : Request) → r.Reply → Prop
  | .place _, reply => refuses reply = false
  | .savePlace _ _, reply => refuses reply = false
  | _, _ => True

/-- The file system refused none of the requests. -/
def Calm (o : Outside) : List Request → Prop
  | [] => True
  | r :: rs => Calm o rs ∧ Unrefused r ((o.after rs).answer r).1

instance : (r : Request) → (reply : r.Reply) → Decidable (Unrefused r reply)
  | .document _, _ => inferInstanceAs (Decidable True)
  | .place _, reply => inferInstanceAs (Decidable (refuses reply = false))
  | .savePlace _ _, reply => inferInstanceAs (Decidable (refuses reply = false))
  | .turn, _ => inferInstanceAs (Decidable True)

instance decidableCalm (o : Outside) : (rs : List Request) → Decidable (Calm o rs)
  | [] => inferInstanceAs (Decidable True)
  | r :: rs =>
    have := decidableCalm o rs
    inferInstanceAs (Decidable (Calm o rs ∧ Unrefused r ((o.after rs).answer r).1))

def saves (rs : List Request) : List Marker :=
  rs.filterMap fun
    | .savePlace story node => some ⟨story, node⟩
    | _ => none

def lastSaved? (story : StoryId) (rs : List Request) : Option NodeId :=
  ((saves rs).find? (·.story = story)).map (·.node)

def lastInto? (base : String) (d : Disk) (p : Place) (rs : List Request) : Option Marker :=
  (saves rs).find? fun m => d.resolve (markerPath base m.story) = .ok p

/-- If there is a file at the place of a story's marker, it was last written for that story. -/
def Owned (base : String) (d : Disk) (story : StoryId) (rs : List Request) : Prop :=
  ∀ p content, d.resolve (markerPath base story) = .ok p → d.node? p = some (.file content) →
    (lastInto? base d p rs).map (·.story) = some story

variable {base : String} {disk : Disk} {source : Source} {o : Outside} {rs : List Request}
variable {story : StoryId} {node : NodeId}

theorem Calm.earlier {later earlier : List Request} (h : Calm o (later ++ earlier)) : Calm o earlier := by
  induction later with
  | nil => exact h
  | cons r later ih => exact ih h.1

theorem store_after_memory (disk : Disk) (source : Source) (rs : List Request) :
    ∃ places, (after ⟨disk, source, .memory [] false false⟩ rs).store = .memory places false false ∧
      ∀ story, places.get? story = lastSaved? story rs := by
  induction rs with
  | nil => exact ⟨[], rfl, fun _ => rfl⟩
  | cons r rs ih =>
    obtain ⟨places, hstore, hplaces⟩ := ih
    generalize hbefore : after ⟨disk, source, .memory [] false false⟩ rs = o at hstore
    have hafter : after ⟨disk, source, .memory [] false false⟩ (r :: rs) = (o.answer r).2 := by rw [← hbefore]; rfl
    rw [hafter]
    obtain ⟨disk', source', store⟩ := o
    subst hstore
    cases r with
    | document path => exact ⟨places, by cases source' <;> rfl, hplaces⟩
    | place story => exact ⟨places, rfl, hplaces⟩
    | turn => exact ⟨places, rfl, hplaces⟩
    | savePlace story node =>
      refine ⟨places.put story node, rfl, fun other => ?_⟩
      rw [Table.get?_put, hplaces]
      by_cases hstory : story = other <;> simp [lastSaved?, saves, hstory]

theorem loadPlace_after_memory (disk : Disk) (source : Source) (rs : List Request) (story : StoryId) :
    (after ⟨disk, source, .memory [] false false⟩ rs).loadPlace story = .ok (lastSaved? story rs) := by
  obtain ⟨places, hstore, hplaces⟩ := store_after_memory disk source rs
  rw [loadPlace, hstore, ← hplaces]
  rfl

theorem exists_put_of_savePlace (hstore : o.store = .files base)
    (hsave : Unrefused (.savePlace story node) (o.savePlace story node).1) :
    ∃ d p, Disk.Furnished o.disk d ∧ d.resolve (markerPath base story) = .ok p ∧ d.node? p ≠ some .directory ∧
      (o.savePlace story node).2 = { o with disk := d.put p (.file (.text (Marker.text ⟨story, node⟩))) } := by
  obtain ⟨disk, source, store⟩ := o
  subst hstore
  have hmade := Disk.furnished_makePath disk base
  simp only [Unrefused, savePlace] at hsave ⊢
  generalize disk.makePath base = made at hmade hsave
  obtain ⟨result, d⟩ := made
  cases result with
  | error cause => cases hsave
  | ok =>
    simp only at hsave ⊢
    cases hwrite : d.writeText (markerPath base story) (Marker.text ⟨story, node⟩) with
    | error cause =>
      rw [hwrite] at hsave
      cases hsave
    | ok d' =>
      obtain ⟨p, hpath, hnot, rfl⟩ := Disk.writeText_ok hwrite
      exact ⟨d, p, hmade, hpath, hnot, rfl⟩

structure Shelved (base : String) (start : Disk) (rs : List Request) (o : Outside) : Prop where
  store : o.store = .files base
  /-- Whatever was saved has its place. -/
  settled : ∀ m ∈ saves rs, ∃ p, o.disk.resolve (markerPath base m.story) = .ok p
  /-- The marker that was written last to a place stands there. -/
  marker : ∀ p m, lastInto? base o.disk p rs = some m → o.disk.node? p = some (.file (.text m.text))
  /-- Any other file stood there from the start. -/
  old : ∀ p content, lastInto? base o.disk p rs = none → o.disk.node? p = some (.file content) →
    start.node? p = some (.file content)

theorem Shelved.lastInto?_eq {start d : Disk} (h : Shelved base start rs o) (hd : Disk.Grows o.disk d) (p : Place) :
    lastInto? base d p rs = lastInto? base o.disk p rs := by
  refine List.find?_congr fun m hm => ?_
  obtain ⟨q, hq⟩ := h.settled m hm
  rw [hq, hd.resolve hq]

theorem disk_fetch (o : Outside) (path : String) :
    (o.fetch path).2.disk = o.disk ∧ (o.fetch path).2.store = o.store := by
  obtain ⟨disk, source, store⟩ := o
  cases source <;> exact ⟨rfl, rfl⟩

theorem Shelved.of_same {start : Disk} {o' : Outside} {rs' : List Request} (h : Shelved base start rs o)
    (hdisk : o'.disk = o.disk) (hstore : o'.store = o.store) (hsaves : saves rs' = saves rs) :
    Shelved base start rs' o' := by
  obtain ⟨hfiles, hsettled, hmarker, hold⟩ := h
  refine ⟨hstore.trans hfiles, ?_, ?_, ?_⟩ <;> rw [hdisk]
  · rwa [hsaves]
  · simpa only [lastInto?, hsaves] using hmarker
  · simpa only [lastInto?, hsaves] using hold

theorem lastInto?_savePlace {d : Disk} {p : Place} (hpath : d.resolve (markerPath base story) = .ok p) (q : Place) :
    lastInto? base d q (.savePlace story node :: rs) = if p = q then some ⟨story, node⟩ else lastInto? base d q rs := by
  simp only [lastInto?, saves, List.filterMap_cons, List.find?_cons, hpath, Except.ok.injEq]
  split <;> simp_all

theorem Shelved.savePlace {start : Disk} (h : Shelved base start rs o)
    (hsave : Unrefused (.savePlace story node) (o.savePlace story node).1) :
    Shelved base start (.savePlace story node :: rs) (o.savePlace story node).2 := by
  obtain ⟨d, p, hmade, hpath, hnot, hafter⟩ := exists_put_of_savePlace h.store hsave
  have hnode := Disk.node?_put_file (.text (Marker.text ⟨story, node⟩)) hnot
  have hput := Disk.grows_put_file (.text (Marker.text ⟨story, node⟩)) hnot
  rw [hafter]
  generalize d.put p (.file (.text (Marker.text ⟨story, node⟩))) = d' at hnode hput
  have hgrows : Disk.Grows o.disk d' := hmade.grows.trans hput
  -- the last save into the new file is this one, and into any other place as it was
  have hlast : ∀ q, lastInto? base d' q (.savePlace story node :: rs) =
      if p = q then some ⟨story, node⟩ else lastInto? base o.disk q rs := by
    intro q
    rw [lastInto?_savePlace (hput.resolve hpath), h.lastInto?_eq hgrows]
  refine ⟨h.store, List.forall_mem_cons.2 ⟨⟨p, hput.resolve hpath⟩, fun m hm => ?_⟩, fun q m hm => ?_,
    fun q content hnone hq => ?_⟩
  · obtain ⟨q, hq⟩ := h.settled m hm
    exact ⟨q, hgrows.resolve hq⟩
  · rw [hlast] at hm
    refine (hnode q).trans ?_
    split_ifs at hm ⊢ with hpq
    · rw [← Option.some.inj hm]
    · exact hmade.node_of_some (h.marker q m hm)
  · rw [hlast] at hnone
    have hq' := (hnode q).symm.trans hq
    split_ifs at hnone hq' with hpq
    exact h.old q content hnone (hmade.file_of_some hq')

/-- Whatever requests were answered, the files are as they should be. -/
theorem shelved_after (h : Calm ⟨disk, source, .files base⟩ rs) :
    Shelved base disk rs (after ⟨disk, source, .files base⟩ rs) := by
  induction rs with
  | nil => exact ⟨rfl, fun m hm => absurd hm List.not_mem_nil, fun _ _ h => absurd h (by simp [lastInto?, saves]),
      fun _ _ _ h => h⟩
  | cons r rs ih =>
    obtain ⟨h, hunrefused⟩ := h
    have ih := ih h
    show Shelved base disk (r :: rs) ((after ⟨disk, source, .files base⟩ rs).answer r).2
    cases r with
    | savePlace story node => exact ih.savePlace hunrefused
    | document path =>
      obtain ⟨hdisk, hstore⟩ := disk_fetch (after ⟨disk, source, .files base⟩ rs) path
      exact ih.of_same hdisk hstore rfl
    | place story => exact ih.of_same rfl rfl rfl
    | turn => exact ih.of_same rfl rfl rfl

theorem mem_of_lastInto? {p : Place} {d : Disk} {m : Marker} (hlast : lastInto? base d p rs = some m) :
    m ∈ saves rs ∧ d.resolve (markerPath base m.story) = .ok p :=
  ⟨List.mem_of_find?_eq_some hlast, of_decide_eq_true (List.find?_some hlast :)⟩

theorem lastSaved?_eq_none {p : Place} {d : Disk} (hpath : d.resolve (markerPath base story) = .ok p)
    (hnone : lastInto? base d p rs = none) : lastSaved? story rs = none := by
  rw [lastSaved?, Option.map_eq_none_iff, List.find?_eq_none]
  intro m hm hstory
  obtain rfl := of_decide_eq_true hstory
  exact List.find?_eq_none.1 hnone m hm (decide_eq_true hpath)

theorem lastSaved?_eq_some {p : Place} {d : Disk} {m : Marker} (hpath : d.resolve (markerPath base m.story) = .ok p)
    (hlast : lastInto? base d p rs = some m) : lastSaved? m.story rs = some m.node := by
  obtain ⟨-, before, after, hsaves, hbefore⟩ := List.find?_eq_some_iff_append.1 hlast
  have hfind : (saves rs).find? (·.story = m.story) = some m := by
    refine List.find?_eq_some_iff_append.2 ⟨decide_eq_true rfl, before, after, hsaves, fun m' hm' => ?_⟩
    have hnot := hbefore m' hm'
    simp only [Bool.not_eq_true', decide_eq_false_iff_not] at hnot ⊢
    exact fun hstory => hnot (hstory ▸ hpath)
  rw [lastSaved?, hfind, Option.map_some]

theorem filePlace_marker (base : String) (story : StoryId) (m : Marker) :
    filePlace base story (.ok m.text) =
      if m.story = story then .ok (some m.node) else .error (.foreignMarker (markerPath base story) m.story) := by
  rw [filePlace, Marker.ofText_text]

theorem filePlace_ok_ne (base : String) (story : StoryId) (s : String) :
    filePlace base story (.ok s) ≠ .ok none := by
  rw [filePlace]
  cases Marker.ofText s with
  | error complaint => simp
  | ok m => by_cases hstory : m.story = story <;> simp [hstory]

theorem noEntry_of_unrefused {cause : FileFault}
    (h : Unrefused (.place story) (filePlace base story (.error cause))) : cause = .noEntry := by
  cases cause with
  | noEntry => rfl
  | _ => cases h

theorem owned_iff {d : Disk} {p : Place} {content : Content} (hpath : d.resolve (markerPath base story) = .ok p)
    (hnode : d.node? p = some (.file content)) :
    Owned base d story rs ↔ (lastInto? base d p rs).map (·.story) = some story := by
  refine ⟨fun h => h p content hpath hnode, fun h q content' hq _ => ?_⟩
  obtain rfl := Except.ok.inj (hpath.symm.trans hq)
  exact h

theorem Shelved.loadPlace_eq {start : Disk} (h : Shelved base start rs o) (story : StoryId) :
    o.loadPlace story = filePlace base story (o.disk.readText (markerPath base story)) := by
  rw [loadPlace, h.store]

theorem Shelved.loadPlace_nowhere {start : Disk} (h : Shelved base start rs o) {cause : FileFault}
    (hpath : o.disk.resolve (markerPath base story) = .error cause)
    (hload : Unrefused (.place story) (o.loadPlace story)) :
    o.loadPlace story = .ok none ∧ lastSaved? story rs = none := by
  rw [h.loadPlace_eq, Disk.readText, hpath] at hload ⊢
  obtain rfl := noEntry_of_unrefused hload
  refine ⟨rfl, ?_⟩
  rw [lastSaved?, Option.map_eq_none_iff, List.find?_eq_none]
  intro m hm hstory
  obtain rfl := of_decide_eq_true hstory
  obtain ⟨p, hp⟩ := h.settled m hm
  cases hp.symm.trans hpath

theorem Shelved.loadPlace_at {start : Disk} (h : Shelved base start rs o) {p : Place}
    (hpath : o.disk.resolve (markerPath base story) = .ok p) (hload : Unrefused (.place story) (o.loadPlace story)) :
    o.disk.node? p = none ∧ o.loadPlace story = .ok none ∨
      ∃ s, o.disk.node? p = some (.file (.text s)) ∧ o.loadPlace story = filePlace base story (.ok s) := by
  rw [h.loadPlace_eq, Disk.readText_of_resolve hpath] at hload ⊢
  cases hnode : o.disk.node? p with
  | none => exact .inl ⟨rfl, rfl⟩
  | some n =>
    rw [hnode] at hload
    match n with
    | .directory => cases noEntry_of_unrefused hload
    | .file (.binary _) => cases noEntry_of_unrefused hload
    | .file (.text s) => exact .inr ⟨s, rfl, rfl⟩

/-- A load from files has what was saved last of the story if and only if the file was last written for it. -/
theorem Shelved.loadPlace_iff {start : Disk} (h : Shelved base start rs o)
    (hload : Unrefused (.place story) (o.loadPlace story)) :
    o.loadPlace story = .ok (lastSaved? story rs) ↔ Owned base o.disk story rs := by
  cases hpath : o.disk.resolve (markerPath base story) with
  | error cause =>
    obtain ⟨hload, hnone⟩ := h.loadPlace_nowhere hpath hload
    exact iff_of_true (by rw [hload, hnone]) fun p _ hp => by cases hpath.symm.trans hp
  | ok p =>
    rcases h.loadPlace_at hpath hload with ⟨hnode, hload⟩ | ⟨s, hnode, hload⟩
    · have hnone : lastInto? base o.disk p rs = none :=
        Option.eq_none_iff_forall_ne_some.2 fun m hm => by cases hnode.symm.trans (h.marker p m hm)
      rw [hload, lastSaved?_eq_none hpath hnone]
      refine iff_of_true rfl fun q content hq hfile => ?_
      obtain rfl := Except.ok.inj (hpath.symm.trans hq)
      cases hnode.symm.trans hfile
    · rw [hload, owned_iff hpath hnode]
      cases hlast : lastInto? base o.disk p rs with
      | none =>
        rw [lastSaved?_eq_none hpath hlast]
        exact iff_of_false (filePlace_ok_ne base story s) (by simp)
      | some m =>
        obtain rfl : s = m.text := by simpa using hnode.symm.trans (h.marker p m hlast)
        rw [filePlace_marker, Option.map_some, Option.some.injEq]
        by_cases hstory : m.story = story
        · subst hstory
          rw [if_pos rfl, lastSaved?_eq_some hpath hlast]
          exact iff_of_true rfl rfl
        · rw [if_neg hstory]
          exact iff_of_false (by simp) hstory

theorem resolve_markerPath {d : Disk} {p : Place} (hplain : '/' ∉ story.text.toList)
    (hpath : d.resolve (markerPath base story) = .ok p) :
    ∃ above, p = above ++ [story.text.toList ++ ".position.json".toList] := by
  rw [← String.toList_append]
  refine Disk.resolve_join ?_ ?_ hpath
  · rw [String.toList_append, List.mem_append, not_or]
    exact ⟨hplain, by decide +kernel⟩
  · rw [String.length_append]
    exact Nat.lt_add_left _ (by decide +kernel)

/-- Stories without a slash in their names share no file. -/
theorem eq_of_same_place {d : Disk} {p : Place} {other : StoryId} (hplain : '/' ∉ story.text.toList)
    (hother : '/' ∉ other.text.toList) (hpath : d.resolve (markerPath base story) = .ok p)
    (hpath' : d.resolve (markerPath base other) = .ok p) : other = story := by
  obtain ⟨above, rfl⟩ := resolve_markerPath hplain hpath
  obtain ⟨above', hp⟩ := resolve_markerPath hother hpath'
  have hname := List.singleton_inj.1 (List.append_inj_right' hp rfl)
  exact congrArg StoryId.mk (String.toList_inj.1 (List.append_cancel_right hname).symm)

/-- At the start there was no file where the marker of a story goes. -/
def Unmarked (base : String) (start d : Disk) (story : StoryId) : Prop :=
  ∀ p content, d.resolve (markerPath base story) = .ok p → start.node? p ≠ some (.file content)

theorem Shelved.exists_lastInto? {start : Disk} (h : Shelved base start rs o)
    (hfresh : Unmarked base start o.disk story) {p : Place} {content : Content}
    (hpath : o.disk.resolve (markerPath base story) = .ok p) (hnode : o.disk.node? p = some (.file content)) :
    ∃ m, lastInto? base o.disk p rs = some m :=
  Option.ne_none_iff_exists'.1 fun hnone => hfresh p content hpath (h.old p content hnone hnode)

section Runs

variable {later earlier : List Request} (h : Calm ⟨disk, source, .files base⟩ (later ++ .place story :: earlier))
variable (hfresh : Unmarked base disk (after ⟨disk, source, .files base⟩ earlier).disk story)

include h hfresh

/-- **No scene of another story is ever taken for one of this story**: a marker that is not its own is refused. -/
theorem loads_own_place_or_refuses :
    (after ⟨disk, source, .files base⟩ earlier).loadPlace story = .ok (lastSaved? story earlier) ∨
      ∃ owner ≠ story, (after ⟨disk, source, .files base⟩ earlier).loadPlace story =
        .error (.foreignMarker (markerPath base story) owner) := by
  obtain ⟨hearlier, hload⟩ : Calm ⟨disk, source, .files base⟩ (.place story :: earlier) := h.earlier
  have hshelved := shelved_after hearlier
  by_cases howned : Owned base (after ⟨disk, source, .files base⟩ earlier).disk story earlier
  · exact .inl ((hshelved.loadPlace_iff hload).2 howned)
  · simp only [Owned, not_forall] at howned
    obtain ⟨p, content, hpath, hnode, hnot⟩ := howned
    obtain ⟨m, hlast⟩ := hshelved.exists_lastInto? hfresh hpath hnode
    rw [hlast, Option.map_some, Option.some.injEq] at hnot
    refine .inr ⟨m.story, hnot, ?_⟩
    have hread : (after ⟨disk, source, .files base⟩ earlier).disk.readText (markerPath base story) = .ok m.text := by
      rw [Disk.readText_of_resolve hpath, hshelved.marker p m hlast]
    rw [hshelved.loadPlace_eq, hread, filePlace_marker, if_neg hnot]

/-- **Stories without a slash in their names are kept in files as they are in memory.** -/
theorem loads_match_memory_of_plain (hplain : '/' ∉ story.text.toList)
    (hall : ∀ m ∈ saves earlier, '/' ∉ m.story.text.toList) :
    (after ⟨disk, source, .files base⟩ earlier).loadPlace story =
      (after ⟨disk, source, .memory [] false false⟩ earlier).loadPlace story := by
  obtain ⟨hearlier, hload⟩ : Calm ⟨disk, source, .files base⟩ (.place story :: earlier) := h.earlier
  have hshelved := shelved_after hearlier
  rw [loadPlace_after_memory]
  refine (hshelved.loadPlace_iff hload).2 fun p content hpath hnode => ?_
  obtain ⟨m, hlast⟩ := hshelved.exists_lastInto? hfresh hpath hnode
  obtain ⟨hsaved, hpath'⟩ := mem_of_lastInto? hlast
  rw [hlast, Option.map_some, eq_of_same_place hplain (hall m hsaved) hpath hpath']

end Runs

/-- **Kept in files, a place is found as if it were kept in memory, if and only if its file is its own.** As long as
the file system refuses nothing, a load from memory gives what was saved last of that very story, or none; and a load
from files gives the same exactly if the file of the marker, where there is one, was last written for that story. -/
theorem loads_match_memory_iff_owned {later earlier : List Request}
    (h : Calm ⟨disk, source, .files base⟩ (later ++ .place story :: earlier)) :
    (after ⟨disk, source, .memory [] false false⟩ earlier).loadPlace story = .ok (lastSaved? story earlier) ∧
      ((after ⟨disk, source, .files base⟩ earlier).loadPlace story =
          (after ⟨disk, source, .memory [] false false⟩ earlier).loadPlace story ↔
        Owned base (after ⟨disk, source, .files base⟩ earlier).disk story earlier) := by
  have hmemory := loadPlace_after_memory disk source earlier story
  obtain ⟨hearlier, hload⟩ : Calm ⟨disk, source, .files base⟩ (.place story :: earlier) := h.earlier
  rw [hmemory]
  exact ⟨rfl, (shelved_after hearlier).loadPlace_iff hload⟩

def bareDisk : Disk := ⟨[['w']], [([['w']], .directory)]⟩

/-- The marker of the first story is overwritten for the second, and then written again. -/
def takingTurns : List Request :=
  [.savePlace ⟨"a"⟩ ⟨"S3"⟩, .savePlace ⟨"./a"⟩ ⟨"S2"⟩, .savePlace ⟨"a"⟩ ⟨"S1"⟩]

theorem loads_match_memory_iff_owned_taking_turns :
    Calm ⟨bareDisk, .memory [] [], .files "saves"⟩ ([.place ⟨"./a"⟩] ++ .place ⟨"a"⟩ :: takingTurns) ∧
      (after ⟨bareDisk, .memory [] [], .memory [] false false⟩ takingTurns).loadPlace ⟨"a"⟩ = .ok (some ⟨"S3"⟩) ∧
      Owned "saves" (after ⟨bareDisk, .memory [] [], .files "saves"⟩ takingTurns).disk ⟨"a"⟩ takingTurns ∧
      (after ⟨bareDisk, .memory [] [], .files "saves"⟩ takingTurns).loadPlace ⟨"a"⟩ =
        (after ⟨bareDisk, .memory [] [], .memory [] false false⟩ takingTurns).loadPlace ⟨"a"⟩ := by
  have hcalm : Calm ⟨bareDisk, .memory [] [], .files "saves"⟩
      ([.place ⟨"./a"⟩] ++ .place ⟨"a"⟩ :: takingTurns) := by decide +kernel
  have hsame : (after ⟨bareDisk, .memory [] [], .files "saves"⟩ takingTurns).loadPlace ⟨"a"⟩ =
      (after ⟨bareDisk, .memory [] [], .memory [] false false⟩ takingTurns).loadPlace ⟨"a"⟩ := by decide +kernel
  exact ⟨hcalm, by decide +kernel, (loads_match_memory_iff_owned hcalm).2.1 hsame, hsame⟩

/-- One story is saved, and then another whose marker goes to the same file. -/
theorem marker_taken_by_another_story :
    Calm ⟨bareDisk, .memory [] [], .files "saves"⟩
        [.place ⟨"a"⟩, .savePlace ⟨"./a"⟩ ⟨"S2"⟩, .savePlace ⟨"a"⟩ ⟨"S1"⟩] ∧
      (after ⟨bareDisk, .memory [] [], .memory [] false false⟩
        [.savePlace ⟨"./a"⟩ ⟨"S2"⟩, .savePlace ⟨"a"⟩ ⟨"S1"⟩]).loadPlace ⟨"a"⟩ = .ok (some ⟨"S1"⟩) ∧
      (after ⟨bareDisk, .memory [] [], .files "saves"⟩
        [.savePlace ⟨"./a"⟩ ⟨"S2"⟩, .savePlace ⟨"a"⟩ ⟨"S1"⟩]).loadPlace ⟨"a"⟩ =
          .error (.foreignMarker "saves/a.position.json" ⟨"./a"⟩) := by
  decide +kernel

end Outside
end Gamebook
