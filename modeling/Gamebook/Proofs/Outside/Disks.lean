import Gamebook.Outside.Disk
import Mathlib.Tactic.SplitIfs

/-! What becomes of a disk. Nothing is ever deleted, and a directory stays one; so a path that leads to a place
leads there for good: `Grows.resolve`. Making a path adds directories where nothing was, and writing puts one file
at the place of its path. -/
namespace Gamebook

namespace Text

variable {p : Char → Bool}

theorem stretches_ne_nil (cs : List Char) : stretches p cs ≠ [] := by
  cases cs with
  | nil => simp [stretches]
  | cons c cs =>
    rw [stretches]
    split
    · simp
    · split <;> simp

theorem stretches_append {c : Char} (hc : p c = true) (cs ds : List Char) :
    stretches p (cs ++ c :: ds) = stretches p cs ++ stretches p ds := by
  induction cs with
  | nil => simp [stretches, hc]
  | cons x cs ih =>
    rw [List.cons_append, stretches, stretches, ih]
    split
    · rfl
    · obtain ⟨s, ss, hs⟩ := List.exists_cons_of_ne_nil (stretches_ne_nil (p := p) cs)
      rw [hs]
      rfl

theorem stretches_eq_singleton {cs : List Char} (h : ∀ c ∈ cs, p c = false) : stretches p cs = [cs] := by
  induction cs with
  | nil => rfl
  | cons c cs ih =>
    obtain ⟨hc, hcs⟩ := List.forall_mem_cons.1 h
    rw [stretches, ih hcs, hc]
    rfl

end Text

namespace Outside

theorem Path.segments_joinChars (base : List Char) {name : List Char} (hname : '/' ∉ name) :
    ∃ front, segments (joinChars base name) = front ++ [name] := by
  have hlast : Text.stretches (· = '/') name = [name] :=
    Text.stretches_eq_singleton fun c hc => decide_eq_false fun h => hname (h ▸ hc)
  have hjoin (front : List Char) : segments (front ++ '/' :: name) = Text.stretches (· = '/') front ++ [name] := by
    rw [segments, Text.stretches_append (by rfl), hlast]
  have hrelative : isAbsolute name ≠ true := fun h => hname (List.mem_of_mem_head? (of_decide_eq_true h))
  rw [joinChars, if_neg hrelative]
  split_ifs with hbase
  · rcases hbase with rfl | hslash
    · exact ⟨[], hlast⟩
    · obtain ⟨front, rfl⟩ := List.getLast?_eq_some_iff.1 hslash
      rw [List.append_assoc]
      exact ⟨_, hjoin front⟩
  · exact ⟨_, hjoin base⟩

theorem bind_eq_ok_iff {ε α β : Type} {x : Except ε α} {f : α → Except ε β} {b : β} :
    x >>= f = .ok b ↔ ∃ a, x = .ok a ∧ f a = .ok b := by
  cases x with
  | error e =>
    refine iff_of_false (fun h => ?_) fun ⟨_, h, _⟩ => ?_ <;> cases h
  | ok a =>
    refine ⟨fun h => ⟨a, rfl, h⟩, fun ⟨_, h, hf⟩ => ?_⟩
    cases h
    exact hf

namespace Disk

variable {d d' e : Disk} {p q : Place} {path : String}

theorem node?_put (d : Disk) (p : Place) (n : Node) (q : Place) :
    (d.put p n).node? q = if p = q ∧ q ≠ [] then some n else d.node? q := by
  by_cases hroot : q = []
  · simp [node?, hroot]
  · simp [node?, put, Table.get?_put, hroot]

theorem checkDirectory_ok_iff : d.checkDirectory p = .ok () ↔ d.node? p = some .directory := by
  unfold checkDirectory
  split <;> simp_all

theorem walk_cons_ok_iff {name : List Char} {rest : List (List Char)} :
    d.walk p (name :: rest) = .ok q ↔ d.node? p = some .directory ∧
      (if name = [] ∨ name = Path.here then d.walk p rest
        else if name = Path.parent then d.walk p.dropLast rest
        else if Path.nameLimit < Path.byteLength name then .error .nameTooLong
        else d.walk (p ++ [name]) rest) = .ok q := by
  rw [walk, bind_eq_ok_iff]
  exact ⟨fun ⟨_, hcheck, h⟩ => ⟨checkDirectory_ok_iff.1 hcheck, h⟩,
    fun ⟨hnode, h⟩ => ⟨(), checkDirectory_ok_iff.2 hnode, h⟩⟩

theorem resolve_ok_iff : d.resolve path = .ok p ↔ Path.check path.toList = .ok () ∧ path.toList ≠ [] ∧
    d.walk (d.origin path.toList) (Path.segments path.toList) = .ok p := by
  rw [resolve, bind_eq_ok_iff]
  split_ifs with hempty
  · simp [hempty]
  · exact ⟨fun ⟨_, hcheck, h⟩ => ⟨hcheck, hempty, h⟩, fun ⟨hcheck, _, h⟩ => ⟨(), hcheck, h⟩⟩

theorem readText_of_resolve (hpath : d.resolve path = .ok p) :
    d.readText path = match d.node? p with
      | none => .error .noEntry
      | some .directory => .error .isDirectory
      | some (.file (.binary _)) => .error .notUtf8
      | some (.file (.text s)) => .ok s := by
  rw [readText, hpath]
  rfl

theorem walk_last {front : List (List Char)} {name : List Char} (hempty : name ≠ []) (hhere : name ≠ Path.here)
    (hparent : name ≠ Path.parent) (hwalk : d.walk p (front ++ [name]) = .ok q) : ∃ above, q = above ++ [name] := by
  induction front generalizing p with
  | nil =>
    rw [List.nil_append, walk_cons_ok_iff] at hwalk
    simp only [hempty, hhere, hparent, or_self, if_false] at hwalk
    obtain ⟨-, hwalk⟩ := hwalk
    split_ifs at hwalk
    exact ⟨p, (Except.ok.inj hwalk).symm⟩
  | cons first rest ih =>
    rw [List.cons_append, walk_cons_ok_iff] at hwalk
    obtain ⟨-, hwalk⟩ := hwalk
    split_ifs at hwalk <;> exact ih hwalk

/-- A plain name that is joined to a path is the name of the place that it leads to. -/
theorem resolve_join {base name : String} (hplain : '/' ∉ name.toList) (hlong : 2 < name.length)
    (hpath : d.resolve (Path.join base name) = .ok p) : ∃ above, p = above ++ [name.toList] := by
  obtain ⟨front, hfront⟩ := Path.segments_joinChars base.toList hplain
  have hchars : (Path.join base name).toList = Path.joinChars base.toList name.toList := String.toList_ofList
  obtain ⟨-, -, hwalk⟩ := resolve_ok_iff.1 hpath
  rw [hchars, hfront] at hwalk
  have hne {cs : List Char} (h : cs.length ≤ 2) : name.toList ≠ cs := by
    rintro rfl
    rw [String.length_toList] at h
    omega
  exact walk_last (hne (by decide)) (hne (by decide)) (hne (by decide)) hwalk

/-- Nobody moves, and every directory is still one. -/
structure Grows (d d' : Disk) : Prop where
  home : d'.home = d.home
  directory : ∀ p, d.node? p = some .directory → d'.node? p = some .directory

namespace Grows

theorem trans (h : Grows d d') (h' : Grows d' e) : Grows d e :=
  ⟨h'.home.trans h.home, fun p hp => h'.directory p (h.directory p hp)⟩

theorem walk (h : Grows d d') {names : List (List Char)} (hwalk : d.walk p names = .ok q) :
    d'.walk p names = .ok q := by
  induction names generalizing p with
  | nil => exact hwalk
  | cons name rest ih =>
    rw [walk_cons_ok_iff] at hwalk ⊢
    obtain ⟨hnode, hwalk⟩ := hwalk
    refine ⟨h.directory p hnode, ?_⟩
    split_ifs at hwalk ⊢ <;> exact ih hwalk

/-- A path that leads to a place leads there for good. -/
theorem resolve (h : Grows d d') (hpath : d.resolve path = .ok p) : d'.resolve path = .ok p := by
  have horigin : d'.origin path.toList = d.origin path.toList := by rw [origin, origin, h.home]
  obtain ⟨hcheck, hempty, hwalk⟩ := resolve_ok_iff.1 hpath
  exact resolve_ok_iff.2 ⟨hcheck, hempty, horigin ▸ h.walk hwalk⟩

end Grows

/-- Directories were added where nothing was, and nothing else happened. -/
structure Furnished (d d' : Disk) : Prop where
  home : d'.home = d.home
  node : ∀ p, d'.node? p = d.node? p ∨ d.node? p = none ∧ d'.node? p = some .directory

namespace Furnished

theorem refl (d : Disk) : Furnished d d := ⟨rfl, fun _ => .inl rfl⟩

theorem trans (h : Furnished d d') (h' : Furnished d' e) : Furnished d e where
  home := h'.home.trans h.home
  node p := by
    rcases h.node p with hp | ⟨hnone, hp⟩ <;> rcases h'.node p with hp' | ⟨hnone', hp'⟩
    · exact .inl (hp'.trans hp)
    · exact .inr ⟨hp.symm.trans hnone', hp'⟩
    · exact .inr ⟨hnone, hp'.trans hp⟩
    · exact .inr ⟨hnone, hp'⟩

theorem node_of_some (h : Furnished d d') {n : Node} (hp : d.node? p = some n) : d'.node? p = some n := by
  rcases h.node p with hsame | ⟨hnone, -⟩
  · exact hsame.trans hp
  · cases hnone.symm.trans hp

theorem file_of_some (h : Furnished d d') {content : Content} (hp : d'.node? p = some (.file content)) :
    d.node? p = some (.file content) := by
  rcases h.node p with hsame | ⟨-, hdirectory⟩
  · exact hsame.symm.trans hp
  · cases hdirectory.symm.trans hp

theorem grows (h : Furnished d d') : Grows d d' := ⟨h.home, fun _ => h.node_of_some⟩

end Furnished

theorem makeDirectory_ok {start : Place} {names : List (List Char)} (h : d.makeDirectory start names = .ok d') :
    ∃ p, d.node? p = none ∧ d' = d.put p .directory := by
  rw [makeDirectory, bind_eq_ok_iff] at h
  obtain ⟨p, -, h⟩ := h
  cases hp : d.node? p with
  | some n => rw [hp] at h; cases h
  | none =>
    rw [hp] at h
    exact ⟨p, hp, (Except.ok.inj h).symm⟩

theorem furnished_makeDirectory {start : Place} {names : List (List Char)}
    (h : d.makeDirectory start names = .ok d') : Furnished d d' := by
  obtain ⟨p, hnone, rfl⟩ := makeDirectory_ok h
  refine ⟨rfl, fun q => ?_⟩
  rw [node?_put]
  split_ifs with hq
  · exact .inr ⟨hq.1 ▸ hnone, rfl⟩
  · exact .inl rfl

theorem furnished_orPresent {start : Place} {names : List (List Char)} {made : Except FileFault Disk}
    (h : ∀ d', made = .ok d' → Furnished d d') : Furnished d (d.orPresent start names made).2 := by
  cases made with
  | ok d' => exact h d' rfl
  | error cause => exact .refl d

theorem furnished_makeDirectories (start : Place) (fuel : Nat) (names : List (List Char)) (d : Disk) :
    Furnished d (makeDirectories start fuel names d).2 := by
  induction fuel generalizing names d with
  | zero => exact .refl d
  | succ fuel ih =>
    rw [makeDirectories]
    split_ifs with hnames
    · exact .refl d
    · split
      · split
        · rename_i d₁ habove
          have hd₁ : Furnished d d₁ := by
            have h := ih (Path.above names) d
            rwa [habove] at h
          exact hd₁.trans (furnished_orPresent fun d' h => furnished_makeDirectory h)
        · exact ih _ d
      · exact furnished_orPresent fun d' h => furnished_makeDirectory h

theorem furnished_makePath (d : Disk) (path : String) : Furnished d (d.makePath path).2 := by
  rw [makePath]
  dsimp only
  split
  · exact .refl d
  · exact furnished_makeDirectories ..

theorem writeText_ok {text : String} (h : d.writeText path text = .ok d') :
    ∃ p, d.resolve path = .ok p ∧ d.node? p ≠ some .directory ∧ d' = d.put p (.file (.text text)) := by
  rw [writeText, bind_eq_ok_iff] at h
  obtain ⟨p, hpath, h⟩ := h
  obtain ⟨-, -, h⟩ := bind_eq_ok_iff.1 h
  split at h
  · cases h
  · rename_i hnot
    exact ⟨p, hpath, hnot, (Except.ok.inj h).symm⟩

section Files

variable (content : Content) (hp : d.node? p ≠ some .directory)

include hp

theorem node?_put_file (q : Place) :
    (d.put p (.file content)).node? q = if p = q then some (.file content) else d.node? q := by
  rw [node?_put]
  by_cases hq : p = q
  · subst hq
    have hroot : p ≠ [] := by
      rintro rfl
      exact hp rfl
    simp [hroot]
  · simp [hq]

/-- A file is put where no directory is, and so every directory is still one. -/
theorem grows_put_file : Grows d (d.put p (.file content)) where
  home := rfl
  directory q hq := by
    have hne : p ≠ q := fun h => hp (h ▸ hq)
    rw [node?_put_file content hp, if_neg hne, hq]

end Files

end Disk
end Outside
end Gamebook
