import Gamebook.Text.Blank

/-! Lines of a text and the white space around them. A line is known by what trimming leaves of it; then carriage
returns do not count, and the white space at the ends of a text makes blank lines there and no difference elsewhere:
`map_lines_trimChars`. -/
namespace Gamebook.Text

theorem all_isBlank_eq (l : List Char) : l.all isBlank = decide (trimChars l = []) := by
  rw [Bool.eq_iff_iff, decide_eq_true_iff, trimChars_eq_nil_iff]

theorem trimChars_cons_of_isBlank {c : Char} (h : isBlank c = true) (cs : List Char) :
    trimChars (c :: cs) = trimChars cs := by
  simp [trimChars, trimStart, h]

theorem trimEnd_cons_of_nil {cs : List Char} (c : Char) (h : trimEnd cs = []) :
    trimEnd (c :: cs) = if isBlank c then [] else [c] := by
  simp only [trimEnd, h]

theorem trimEnd_cons_of_ne_nil {cs : List Char} (c : Char) (h : trimEnd cs ≠ []) :
    trimEnd (c :: cs) = c :: trimEnd cs := by
  cases hcs : trimEnd cs with
  | nil => exact absurd hcs h
  | cons d ds => simp only [trimEnd, hcs]

theorem trimEnd_cons_trimEnd (c : Char) (cs : List Char) : trimEnd (c :: trimEnd cs) = trimEnd (c :: cs) := by
  by_cases h : trimEnd cs = []
  · rw [h, trimEnd_cons_of_nil c h, trimEnd_cons_of_nil c rfl]
  · rw [trimEnd_cons_of_ne_nil c h, trimEnd_cons_of_ne_nil c (by rwa [trimEnd_trimEnd]), trimEnd_trimEnd]

theorem trimChars_trimEnd (cs : List Char) : trimChars (trimEnd cs) = trimChars cs := by
  induction cs with
  | nil => rfl
  | cons c cs ih =>
    by_cases hcs : trimEnd cs = []
    · rw [trimEnd_cons_of_nil c hcs]
      cases hc : isBlank c
      · rw [if_neg Bool.false_ne_true, trimChars, trimChars, trimStart_of_head hc, trimStart_of_head hc,
          trimEnd_cons_of_nil c hcs, trimEnd_cons_of_nil c rfl]
      · rw [if_pos rfl, trimChars_cons_of_isBlank hc, ← ih, hcs]
    · rw [trimEnd_cons_of_ne_nil c hcs]
      cases hc : isBlank c
      · rw [trimChars, trimChars, trimStart_of_head hc, trimStart_of_head hc, trimEnd_cons_trimEnd]
      · rw [trimChars_cons_of_isBlank hc, trimChars_cons_of_isBlank hc, ih]

theorem head?_trimEnd {cs : List Char} (h : trimEnd cs ≠ []) : (trimEnd cs).head? = cs.head? := by
  cases cs with
  | nil => rfl
  | cons c cs =>
    by_cases hcs : trimEnd cs = []
    · rw [trimEnd_cons_of_nil c hcs] at h ⊢
      cases hc : isBlank c
      · rfl
      · rw [hc] at h
        exact absurd rfl h
    · rw [trimEnd_cons_of_ne_nil c hcs]
      rfl

theorem lines_eq_nil_iff (cs : List Char) : lines cs = [] ↔ cs = [] := by
  fun_cases lines cs <;> simp

theorem newline_notMem_of_mem_lines {cs l : List Char} (h : l ∈ lines cs) : '\n' ∉ l := by
  fun_induction lines cs generalizing l with
  | case1 => cases h
  | case2 rest ih =>
    rcases List.mem_cons.1 h with rfl | h
    · exact List.not_mem_nil
    · exact ih h
  | case3 rest ih =>
    rcases List.mem_cons.1 h with rfl | h
    · exact List.not_mem_nil
    · exact ih h
  | case4 c rest _ hc hrest ih =>
    obtain rfl := List.mem_singleton.1 h
    simpa using Ne.symm hc
  | case5 c rest _ hc first more hrest ih =>
    rcases List.mem_cons.1 h with rfl | h
    · rw [List.mem_cons, not_or]
      exact ⟨Ne.symm hc, ih (hrest ▸ List.mem_cons_self)⟩
    · exact ih (hrest ▸ List.mem_cons_of_mem _ h)

/-- The lines of a text without the white space at their ends, when a character is put before the text; `next` is
the character that it started with. -/
def putFirst (c : Char) (next : Option Char) (ls : List (List Char)) : List (List Char) :=
  if c = '\n' then [] :: ls
  else if c = '\r' ∧ next = some '\n' then ls
  else trimEnd (c :: ls.headD []) :: ls.tail

theorem map_lines_cons (c : Char) (cs : List Char) :
    (lines (c :: cs)).map trimEnd = putFirst c cs.head? ((lines cs).map trimEnd) := by
  unfold putFirst
  split
  · rename_i hc
    rw [hc, lines]
    rfl
  · rename_i hc
    split
    · rename_i hreturn
      obtain ⟨rfl, hnext⟩ := hreturn
      obtain ⟨rest, rfl⟩ := List.head?_eq_some_iff.1 hnext
      rfl
    · rename_i hreturn
      rw [lines]
      · cases lines cs with
        | nil => rfl
        | cons l ls => simp [trimEnd_cons_trimEnd]
      · rintro rest rfl rfl
        exact hreturn ⟨rfl, rfl⟩
      · exact hc

theorem putFirst_append (c : Char) (next : Option Char) {ls : List (List Char)} (h : ls ≠ []) (more : List (List Char)) :
    putFirst c next (ls ++ more) = putFirst c next ls ++ more := by
  obtain ⟨l, ls, rfl⟩ := List.exists_cons_of_ne_nil h
  unfold putFirst
  split
  · rfl
  · split <;> rfl

/-- White space is put into the first line, or makes a blank one. -/
theorem map_putFirst {c : Char} (h : isBlank c = true) (next : Option Char) (ls : List (List Char)) :
    ∃ m, (putFirst c next ls).map trimChars = List.replicate m [] ++ ls.map trimChars := by
  unfold putFirst
  split
  · exact ⟨1, rfl⟩
  · split
    · exact ⟨0, rfl⟩
    · cases ls with
      | nil => exact ⟨1, by simp [trimChars_trimEnd, trimChars_cons_of_isBlank h]; rfl⟩
      | cons l ls => exact ⟨0, by simp [trimChars_trimEnd, trimChars_cons_of_isBlank h]⟩

theorem headD_replicate_nil (n : Nat) : (List.replicate n ([] : List Char)).headD [] = [] := by
  cases n <;> rfl

theorem putFirst_replicate {c : Char} (h : isBlank c = true) (next : Option Char) (n : Nat) :
    ∃ m, putFirst c next (List.replicate n []) = List.replicate m [] := by
  unfold putFirst
  split
  · exact ⟨n + 1, rfl⟩
  · split
    · exact ⟨n, rfl⟩
    · refine ⟨n - 1 + 1, ?_⟩
      rw [headD_replicate_nil, trimEnd_cons_of_nil c rfl, if_pos h, List.tail_replicate, List.replicate_succ]

theorem putFirst_of_isBlank {c : Char} (h : isBlank c = false) (next : Option Char) (ls : List (List Char)) :
    putFirst c next ls = trimEnd (c :: ls.headD []) :: ls.tail := by
  have hfeed : c ≠ '\n' := by
    rintro rfl
    cases h
  have hreturn : c ≠ '\r' := by
    rintro rfl
    cases h
  rw [putFirst, if_neg hfeed, if_neg fun hc => hreturn hc.1]

/-- A stretch without line feeds is one line, up to its end. -/
theorem map_lines_of_newline_notMem {l : List Char} (h : '\n' ∉ l) (hsome : l ≠ []) :
    (lines l).map trimEnd = [trimEnd l] := by
  induction l with
  | nil => exact absurd rfl hsome
  | cons c l ih =>
    obtain ⟨hc, hl⟩ := not_or.1 (mt List.mem_cons.2 h)
    have hnext : ¬ (c = '\r' ∧ l.head? = some '\n') := fun hreturn => hl (List.mem_of_mem_head? hreturn.2)
    rw [map_lines_cons, putFirst, if_neg (Ne.symm hc), if_neg hnext]
    by_cases hnone : l = []
    · subst hnone
      rfl
    · rw [ih hl hnone]
      exact congrArg (· :: []) (trimEnd_cons_trimEnd c l)

theorem map_lines_append {l : List Char} (h : '\n' ∉ l) (rest : List Char) :
    (lines (l ++ '\n' :: rest)).map trimEnd = trimEnd l :: (lines rest).map trimEnd := by
  induction l with
  | nil => rfl
  | cons c l ih =>
    obtain ⟨hc, hl⟩ := not_or.1 (mt List.mem_cons.2 h)
    rw [List.cons_append, map_lines_cons, ih hl, putFirst, if_neg (Ne.symm hc)]
    split
    · rename_i hreturn
      obtain ⟨rfl, hnext⟩ := hreturn
      cases l with
      | nil => rfl
      | cons d l =>
        obtain rfl := Option.some.inj hnext
        exact absurd List.mem_cons_self hl
    · exact congrArg (· :: _) (trimEnd_cons_trimEnd c l)

theorem map_trimChars_map_trimEnd (ls : List (List Char)) : (ls.map trimEnd).map trimChars = ls.map trimChars := by
  rw [List.map_map]
  exact List.map_congr_left fun l _ => trimChars_trimEnd l

theorem map_lines_trimStart (cs : List Char) :
    ∃ m, (lines cs).map trimChars = List.replicate m [] ++ (lines (trimStart cs)).map trimChars := by
  induction cs with
  | nil => exact ⟨0, rfl⟩
  | cons c cs ih =>
    cases hc : isBlank c
    · exact ⟨0, by rw [trimStart_of_head hc]; rfl⟩
    · obtain ⟨m, hm⟩ := ih
      obtain ⟨k, hk⟩ := map_putFirst hc cs.head? ((lines cs).map trimEnd)
      have hstart : trimStart (c :: cs) = trimStart cs := by simp [trimStart, hc]
      refine ⟨k + m, ?_⟩
      rw [← map_trimChars_map_trimEnd, map_lines_cons, hk, map_trimChars_map_trimEnd, hm, hstart, ← List.append_assoc,
        List.replicate_append_replicate]

theorem map_lines_trimEnd (cs : List Char) :
    ∃ n, (lines cs).map trimEnd = (lines (trimEnd cs)).map trimEnd ++ List.replicate n [] := by
  induction cs with
  | nil => exact ⟨0, rfl⟩
  | cons c cs ih =>
    obtain ⟨n, hn⟩ := ih
    by_cases hcs : trimEnd cs = []
    · have hblank : (lines cs).map trimEnd = List.replicate n [] := by
        rw [hn, hcs]
        rfl
      rw [map_lines_cons, hblank, trimEnd_cons_of_nil c hcs]
      cases hc : isBlank c
      · refine ⟨n - 1, ?_⟩
        rw [if_neg Bool.false_ne_true, map_lines_cons, putFirst_of_isBlank hc, putFirst_of_isBlank hc, headD_replicate_nil,
          List.tail_replicate]
        rfl
      · obtain ⟨m, hm⟩ := putFirst_replicate hc cs.head? n
        exact ⟨m, by rw [hm]; rfl⟩
    · have hsome : (lines (trimEnd cs)).map trimEnd ≠ [] := by
        rwa [Ne, List.map_eq_nil_iff, lines_eq_nil_iff]
      refine ⟨n, ?_⟩
      rw [map_lines_cons, hn, putFirst_append _ _ hsome, trimEnd_cons_of_ne_nil c hcs, map_lines_cons, head?_trimEnd hcs]

/-- The white space around a text makes blank lines at its ends, and changes nothing of the other lines. -/
theorem map_lines_trimChars (cs : List Char) :
    ∃ m n, (lines cs).map trimChars =
      List.replicate m [] ++ ((lines (trimChars cs)).map trimChars ++ List.replicate n []) := by
  obtain ⟨m, hm⟩ := map_lines_trimStart cs
  obtain ⟨n, hn⟩ := map_lines_trimEnd (trimStart cs)
  have htrim := congrArg (List.map trimChars) hn
  rw [List.map_append, map_trimChars_map_trimEnd, map_trimChars_map_trimEnd, List.map_replicate] at htrim
  exact ⟨m, n, hm.trans (congrArg _ htrim)⟩

end Gamebook.Text
