import Gamebook.Proofs.Story.Reading
import Gamebook.Proofs.Text.Lines

/-! Paragraphs and the lines that they are made of. Each line of a text that is not blank is a line of exactly one
paragraph, in the same order, and a paragraph ends where a blank line stands and nowhere else. The main statement is
`paragraphs_hold_the_lines`. -/
namespace Gamebook.Story.Prose

open Text (lines trimChars trimEnd isBlank)

structure Solid (l : List Char) : Prop where
  unbroken : '\n' ∉ l
  said : l.all isBlank = false

theorem Solid.trimChars_ne_nil {l : List Char} (h : Solid l) : trimChars l ≠ [] := by
  have hsaid := h.said
  rw [Text.all_isBlank_eq] at hsaid
  exact of_decide_eq_false hsaid

theorem map_lines_joinLines {ls : List (List Char)} (h : ∀ l ∈ ls, Solid l) :
    (lines (joinLines ls)).map trimEnd = ls.map trimEnd := by
  fun_induction joinLines ls with
  | case1 => rfl
  | case2 l =>
    have hl := h l List.mem_cons_self
    refine Text.map_lines_of_newline_notMem hl.unbroken ?_
    rintro rfl
    cases hl.said
  | case3 l ls _ ih =>
    rw [Text.map_lines_append (h l List.mem_cons_self).unbroken, ih fun k hk => h k (List.mem_cons_of_mem _ hk)]
    rfl

theorem eq_of_padded {xs ys : List (List Char)} {m n : Nat}
    (h : xs = List.replicate m [] ++ (ys ++ List.replicate n [])) (hxs : [] ∉ xs) : xs = ys := by
  cases m with
  | zero =>
    cases n with
    | zero => simpa using h
    | succ n => exact absurd (by simp [h]) hxs
  | succ m => exact absurd (by simp [h]) hxs

theorem map_lines_gathered {ls : List (List Char)} (h : ∀ l ∈ ls, Solid l) :
    (lines (trimChars (joinLines ls))).map trimChars = ls.map trimChars := by
  have hjoined : (lines (joinLines ls)).map trimChars = ls.map trimChars := by
    rw [← Text.map_trimChars_map_trimEnd, map_lines_joinLines h, Text.map_trimChars_map_trimEnd]
  obtain ⟨m, n, hmn⟩ := Text.map_lines_trimChars (joinLines ls)
  rw [hjoined] at hmn
  refine (eq_of_padded hmn fun hnil => ?_).symm
  obtain ⟨l, hl, hblank⟩ := List.mem_map.1 hnil
  exact (h l hl).trimChars_ne_nil hblank

theorem gather_eq {ls : List (List Char)} (h : ∀ l ∈ ls, Solid l) (hsome : ls ≠ []) :
    gather ls = [trimChars (joinLines ls)] := by
  have hlines := map_lines_gathered h
  rw [gather]
  refine if_neg fun hnone => ?_
  rw [hnone] at hlines
  exact hsome (List.map_eq_nil_iff.1 hlines.symm)

def close : List (List Char) → List (List (List Char))
  | [] => []
  | l :: ls => [l :: ls]

theorem close_of_ne_nil {ls : List (List Char)} (h : ls ≠ []) : close ls = [ls] := by
  cases ls with
  | nil => exact absurd rfl h
  | cons l ls => rfl

theorem flatten_close (ls : List (List Char)) : (close ls).flatten = ls := by
  cases ls with
  | nil => rfl
  | cons l ls => exact List.append_nil _

theorem flatMap_gather_close (ls : List (List Char)) : (close ls).flatMap gather = gather ls := by
  cases ls with
  | nil => rfl
  | cons l ls => exact List.append_nil _

theorem map_close (f : List Char → List Char) (ls : List (List Char)) :
    (close ls).map (List.map f) = close (ls.map f) := by
  cases ls <;> rfl

theorem nil_notMem_close (ls : List (List Char)) : [] ∉ close ls := by
  cases ls <;> simp [close]

/-- The lines that say something, in groups that blank lines part; the first group was begun with some lines. -/
def groups : List (List Char) → List (List Char) → List (List (List Char))
  | begun, [] => close begun
  | begun, l :: ls => if l.all isBlank then close begun ++ groups [] ls else groups (begun ++ [l]) ls

theorem groups_blank (begun : List (List Char)) {l : List Char} (h : l.all isBlank = true) (ls : List (List Char)) :
    groups begun (l :: ls) = close begun ++ groups [] ls := by
  rw [groups, if_pos h]

theorem groups_said (begun : List (List Char)) {l : List Char} (h : l.all isBlank = false) (ls : List (List Char)) :
    groups begun (l :: ls) = groups (begun ++ [l]) ls := by
  rw [groups, h, if_neg Bool.false_ne_true]

theorem divide_eq (gathered ls : List (List Char)) : divide gathered ls = (groups gathered ls).flatMap gather := by
  induction ls generalizing gathered with
  | nil => exact (flatMap_gather_close gathered).symm
  | cons l ls ih =>
    rw [divide]
    cases h : l.all isBlank
    · rw [groups_said _ h, if_neg Bool.false_ne_true, ih]
    · rw [groups_blank _ h, if_pos rfl, List.flatMap_append, ih, flatMap_gather_close]

theorem flatten_groups (begun ls : List (List Char)) :
    (groups begun ls).flatten = begun ++ ls.filter fun l => !l.all isBlank := by
  induction ls generalizing begun with
  | nil => rw [groups, flatten_close, List.filter_nil, List.append_nil]
  | cons l ls ih =>
    cases h : l.all isBlank
    · rw [groups_said _ h, ih, List.filter_cons_of_pos (by rw [h]; rfl), List.append_assoc, List.singleton_append]
    · rw [groups_blank _ h, List.flatten_append, flatten_close, ih, List.filter_cons_of_neg (by rw [h]; decide),
        List.nil_append]

theorem nil_notMem_groups (begun ls : List (List Char)) : [] ∉ groups begun ls := by
  induction ls generalizing begun with
  | nil => exact nil_notMem_close begun
  | cons l ls ih =>
    cases h : l.all isBlank
    · rw [groups_said _ h]
      exact ih _
    · rw [groups_blank _ h, List.mem_append, not_or]
      exact ⟨nil_notMem_close begun, ih []⟩

theorem solid_of_mem_groups {cs : List Char} {g : List (List Char)} (hg : g ∈ groups [] (lines cs)) :
    ∀ l ∈ g, Solid l := by
  intro l hl
  have hmem : l ∈ (groups [] (lines cs)).flatten := List.mem_flatten.2 ⟨g, hg, hl⟩
  rw [flatten_groups, List.nil_append, List.mem_filter] at hmem
  exact ⟨Text.newline_notMem_of_mem_lines hmem.1, by simpa using hmem.2⟩

theorem splitParagraphs_eq (cs : List Char) :
    splitParagraphs cs = (groups [] (lines (trimChars cs))).map fun g => trimChars (joinLines g) := by
  have hgather : ∀ g ∈ groups [] (lines (trimChars cs)), gather g = [trimChars (joinLines g)] := fun g hg =>
    gather_eq (solid_of_mem_groups hg) fun hnone => nil_notMem_groups _ _ (hnone ▸ hg)
  rw [splitParagraphs, divide_eq, List.map_eq_flatMap, List.flatMap_def, List.flatMap_def, List.map_congr_left hgather]

/-- It does not matter for the groups what blank lines are made of. -/
theorem map_groups (begun ls : List (List Char)) :
    (groups begun ls).map (List.map trimChars) = groups (begun.map trimChars) (ls.map trimChars) := by
  have hblank : ∀ l, (trimChars l).all isBlank = l.all isBlank := fun l => by
    rw [Text.all_isBlank_eq, Text.all_isBlank_eq, Text.trimChars_trimChars]
  induction ls generalizing begun with
  | nil => exact map_close trimChars begun
  | cons l ls ih =>
    rw [List.map_cons]
    cases h : l.all isBlank
    · rw [groups_said _ h, groups_said _ ((hblank l).trans h), ih, List.map_append, List.map_singleton]
    · rw [groups_blank _ h, groups_blank _ ((hblank l).trans h), List.map_append, ih, map_close, List.map_nil]

theorem groups_replicate_append (m : Nat) (ls : List (List Char)) :
    groups [] (List.replicate m [] ++ ls) = groups [] ls := by
  induction m with
  | zero => rfl
  | succ m ih =>
    rw [List.replicate_succ, List.cons_append, groups_blank _ rfl, ih]
    rfl

theorem groups_append_replicate (begun ls : List (List Char)) (n : Nat) :
    groups begun (ls ++ List.replicate n []) = groups begun ls := by
  induction ls generalizing begun with
  | nil =>
    cases n with
    | zero => rfl
    | succ n =>
      have hrest := groups_replicate_append n []
      rw [List.append_nil] at hrest
      rw [List.nil_append, List.replicate_succ, groups_blank _ rfl, hrest]
      exact List.append_nil _
  | cons l ls ih =>
    rw [List.cons_append]
    cases h : l.all isBlank
    · rw [groups_said _ h, groups_said _ h, ih]
    · rw [groups_blank _ h, groups_blank _ h, ih]

/-- The paragraphs have the lines of the groups, but for white space at their ends. -/
theorem map_lines_splitParagraphs (cs : List Char) :
    ((splitParagraphs cs).map lines).map (List.map trimChars) = (groups [] (lines cs)).map (List.map trimChars) := by
  obtain ⟨m, n, hmn⟩ := Text.map_lines_trimChars cs
  have hgroups : (groups [] (lines cs)).map (List.map trimChars) =
      (groups [] (lines (trimChars cs))).map (List.map trimChars) := by
    rw [map_groups, map_groups, hmn, List.map_nil, groups_replicate_append, groups_append_replicate]
  rw [hgroups, splitParagraphs_eq, List.map_map, List.map_map]
  exact List.map_congr_left fun g hg => map_lines_gathered (solid_of_mem_groups hg)

/-- The number of its group for each entry of some groups; the first group has the number `n`. -/
def homes {α : Type} (n : Nat) (gs : List (List α)) : List Nat :=
  (gs.zipIdx n).flatMap fun g => g.1.map fun _ => g.2

theorem homes_cons {α : Type} (n : Nat) (g : List α) (gs : List (List α)) :
    homes n (g :: gs) = List.replicate g.length n ++ homes (n + 1) gs := by
  rw [homes, List.zipIdx_cons, List.flatMap_cons, List.map_const']
  rfl

theorem homes_map {α β : Type} (f : α → β) (n : Nat) (gs : List (List α)) :
    homes n (gs.map (List.map f)) = homes n gs := by
  induction gs generalizing n with
  | nil => rfl
  | cons g gs ih => rw [List.map_cons, homes_cons, homes_cons, ih, List.length_map]

def said (ls : List (List Char)) : Nat := ls.countP fun l => !l.all isBlank

/-- How many groups end within some lines; `begun` says whether a group was begun before them. -/
def ended (begun : Bool) : List (List Char) → Nat
  | [] => 0
  | l :: ls => if l.all isBlank then begun.toNat + ended false ls else ended true ls

theorem ended_append_cons (begun : Bool) (before : List (List Char)) {l : List Char} (h : l.all isBlank = false)
    (between : List (List Char)) :
    ended begun (before ++ l :: between) = ended begun before + ended true between := by
  induction before generalizing begun with
  | nil => simp [ended, h]
  | cons k before ih =>
    rw [List.cons_append, ended, ended, ih, ih]
    split
    · rw [Nat.add_assoc]
    · rfl

theorem ended_eq_zero_iff (between : List (List Char)) :
    ended true between = 0 ↔ ∀ l ∈ between, l.all isBlank = false := by
  induction between with
  | nil => simp [ended]
  | cons l between ih =>
    rw [ended, List.forall_mem_cons]
    cases h : l.all isBlank
    · simpa using ih
    · simp

theorem exists_groups_eq (begun : List (List Char)) (h : begun ≠ []) (ls : List (List Char)) :
    ∃ more rest, groups begun ls = (begun ++ more) :: rest := by
  induction ls generalizing begun with
  | nil => exact ⟨[], [], by rw [groups, close_of_ne_nil h, List.append_nil]⟩
  | cons l ls ih =>
    cases hl : l.all isBlank
    · obtain ⟨more, rest, hgroups⟩ := ih (begun ++ [l]) (by simp)
      exact ⟨l :: more, rest, by rw [groups_said _ hl, hgroups, List.append_assoc, List.singleton_append]⟩
    · exact ⟨[], groups [] ls, by rw [groups_blank _ hl, close_of_ne_nil h, List.append_nil, List.singleton_append]⟩

/-- A line that says something is in the group whose number is how many groups ended before it. -/
theorem homes_groups (n : Nat) (begun before : List (List Char)) {l : List Char} (h : l.all isBlank = false)
    (after : List (List Char)) :
    (homes n (groups begun (before ++ l :: after)))[begun.length + said before]? =
      some (n + ended (!begun.isEmpty) before) := by
  induction before generalizing n begun with
  | nil =>
    obtain ⟨more, rest, hgroups⟩ := exists_groups_eq (begun ++ [l]) (by simp) after
    have hlt : begun.length < (begun ++ [l] ++ more).length := by
      simp only [List.length_append, List.length_singleton]
      omega
    rw [List.nil_append, groups_said _ h, hgroups, homes_cons]
    exact (List.getElem?_append_left (by rwa [List.length_replicate])).trans (List.getElem?_replicate_of_lt hlt)
  | cons k before ih =>
    rw [List.cons_append, ended]
    cases hk : k.all isBlank
    · have hsaid : begun.length + said (k :: before) = (begun ++ [k]).length + said before := by
        rw [said, List.countP_cons_of_pos (by rw [hk]; rfl), List.length_append, List.length_singleton, said]
        omega
      have hbegun : (begun ++ [k]).isEmpty = false := by simp
      rw [groups_said _ hk, hsaid, ih, hbegun]
      rfl
    · have hsaid : said (k :: before) = said before := List.countP_cons_of_neg (by rw [hk]; decide)
      rw [groups_blank _ hk, hsaid, if_pos rfl]
      cases begun with
      | nil =>
        have hrest := ih n []
        simpa [close] using hrest
      | cons b bs =>
        have hrest := ih (n + 1) []
        rw [List.length_nil, Nat.zero_add] at hrest
        rw [close_of_ne_nil (List.cons_ne_nil b bs), List.singleton_append, homes_cons,
          List.getElem?_append_right (by rw [List.length_replicate]; omega), List.length_replicate,
          Nat.add_sub_cancel_left, hrest, Nat.add_assoc]
        rfl

/-- Paragraphs that hold what a text says. Each of them says something, has no white space at its ends and no blank
line. Their lines in order are the lines of the text that say something, in order and up to the white space at the
ends of each. Hence the place of such a line among the lines of the paragraphs is how many come before it in the text,
and two of them are in one paragraph exactly if every line between them says something. -/
structure HoldsLines (raw : String) (ps : List String) : Prop where
  nonempty : ∀ p ∈ ps, p ≠ ""
  trimmed : ∀ p ∈ ps, Text.trim p = p
  solid : ∀ p ∈ ps, ∀ l ∈ lines p.toList, l.all isBlank = false
  kept : (ps.flatMap fun p => lines p.toList).map trimChars =
    ((lines raw.toList).filter fun l => !l.all isBlank).map trimChars
  together : ∀ before a between b after, lines raw.toList = before ++ a :: (between ++ b :: after) →
    a.all isBlank = false → b.all isBlank = false →
    ∃ m n, (homes 0 (ps.map fun p => lines p.toList))[said before]? = some m ∧
      (homes 0 (ps.map fun p => lines p.toList))[said (before ++ a :: between)]? = some n ∧
      (m = n ↔ ∀ l ∈ between, l.all isBlank = false)

theorem trimChars_of_mem_splitParagraphs {cs p : List Char} (hp : p ∈ splitParagraphs cs) : trimChars p = p := by
  rw [splitParagraphs_eq] at hp
  obtain ⟨g, -, rfl⟩ := List.mem_map.1 hp
  exact Text.trimChars_trimChars _

theorem all_isBlank_of_mem_splitParagraphs {cs p l : List Char} (hp : p ∈ splitParagraphs cs) (hl : l ∈ lines p) :
    l.all isBlank = false := by
  rw [splitParagraphs_eq] at hp
  obtain ⟨g, hg, rfl⟩ := List.mem_map.1 hp
  have hsolid := solid_of_mem_groups hg
  have hmem : trimChars l ∈ (lines (trimChars (joinLines g))).map trimChars := List.mem_map_of_mem hl
  rw [map_lines_gathered hsolid] at hmem
  obtain ⟨k, hk, hkl⟩ := List.mem_map.1 hmem
  rw [Text.all_isBlank_eq, ← hkl]
  exact decide_eq_false (hsolid k hk).trimChars_ne_nil

theorem flatMap_lines_splitParagraphs (cs : List Char) :
    ((splitParagraphs cs).flatMap lines).map trimChars =
      ((lines cs).filter fun l => !l.all isBlank).map trimChars := by
  have hflat := congrArg List.flatten (map_lines_splitParagraphs cs)
  rwa [← List.map_flatten, ← List.map_flatten, ← List.flatMap_def, flatten_groups, List.nil_append] at hflat

theorem homes_splitParagraphs (cs : List Char) :
    homes 0 ((splitParagraphs cs).map lines) = homes 0 (groups [] (lines cs)) := by
  rw [← homes_map trimChars, map_lines_splitParagraphs, homes_map]

/-- No line of a text that says something is lost, no paragraph runs over a blank line, and no other line ends one. -/
theorem paragraphs_hold_the_lines (raw : String) : HoldsLines raw (Prose.ofText raw).paragraphs := by
  have hmap : ((Prose.ofText raw).paragraphs.map fun p => lines p.toList) =
      (splitParagraphs raw.toList).map lines := by
    rw [Prose.ofText, List.map_map]
    exact List.map_congr_left fun p _ => congrArg lines String.toList_ofList
  refine ⟨fun p hp => ?_, fun p hp => ?_, fun p hp l hl => ?_, ?_, fun before a between b after hlines ha hb => ?_⟩
  · obtain ⟨cs, hcs, rfl⟩ := List.mem_map.1 hp
    intro hempty
    obtain rfl : cs = [] := String.ofList_injective hempty
    exact nil_notMem_divide _ _ hcs
  · obtain ⟨cs, hcs, rfl⟩ := List.mem_map.1 hp
    rw [Text.trim, String.toList_ofList, trimChars_of_mem_splitParagraphs hcs]
  · obtain ⟨cs, hcs, rfl⟩ := List.mem_map.1 hp
    rw [String.toList_ofList] at hl
    exact all_isBlank_of_mem_splitParagraphs hcs hl
  · rw [List.flatMap_def, hmap, ← List.flatMap_def]
    exact flatMap_lines_splitParagraphs raw.toList
  · have hfirst := homes_groups 0 [] before ha (between ++ b :: after)
    have hsecond := homes_groups 0 [] (before ++ a :: between) hb after
    rw [List.append_assoc, List.cons_append, ended_append_cons _ _ ha] at hsecond
    rw [List.length_nil, Nat.zero_add, Nat.zero_add] at hfirst hsecond
    rw [hmap, homes_splitParagraphs, hlines]
    refine ⟨_, _, hfirst, hsecond, ?_⟩
    rw [← ended_eq_zero_iff]
    omega

example : (Prose.ofText "  First line\nsame paragraph\n \n\nSecond  ").paragraphs =
    ["First line\nsame paragraph", "Second"] := by rfl

end Gamebook.Story.Prose
