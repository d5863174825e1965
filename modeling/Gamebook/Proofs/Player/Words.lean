import Gamebook.Player.View
import Gamebook.Proofs.Story.Reading

/-! The words of a paragraph on the terminal and in the markup. The markup keeps two asterisks that make
nothing strong, the terminal leaves out any two of them; apart from that both show the same characters. The
main statement is `terminal_shows_the_words`. -/
namespace Gamebook.Player

open Story Story.Prose Story.Markup

theorem stripEmphasis_cons {c : Char} {cs : List Char} (h : c = '*' → cs.head? ≠ some '*') :
    stripEmphasis (c :: cs) = c :: stripEmphasis cs := by
  rw [stripEmphasis]
  rintro rest rfl rfl
  exact h rfl rfl

theorem stripEmphasis_of_cut_eq_none {cs : List Char} (h : cut cs = none) : stripEmphasis cs = cs := by
  fun_induction cut cs with
  | case1 => rfl
  | case2 rest => cases h
  | case3 c rest hrest ih =>
    rw [stripEmphasis, ih (Option.map_eq_none_iff.1 h)]
    exact hrest

/-- What stands before the first two asterisks is kept, whatever follows it. -/
theorem stripEmphasis_append_of_cut {cs before after : List Char} (h : cut cs = some (before, after))
    (ds : List Char) : stripEmphasis (before ++ ds) = before ++ stripEmphasis ds := by
  fun_induction cut cs generalizing before after with
  | case1 => cases h
  | case2 rest =>
    obtain ⟨rfl, rfl⟩ := Prod.mk.inj (Option.some.inj h)
    rfl
  | case3 c rest hrest ih =>
    obtain ⟨⟨inner, tail⟩, hcut, hp⟩ := Option.map_eq_some_iff.1 h
    obtain ⟨rfl, rfl⟩ := Prod.mk.inj hp
    rw [List.cons_append, List.cons_append, stripEmphasis_cons, ih hcut]
    -- were these two asterisks, the text would have been cut before them
    rintro rfl hhead
    have hrest' := eq_of_cut hcut
    cases inner with
    | nil => exact hrest _ rfl hrest'
    | cons d inner =>
      obtain rfl := Option.some.inj hhead
      exact hrest _ rfl hrest'

theorem length_stripEmphasis_le (cs : List Char) : (stripEmphasis cs).length ≤ cs.length := by
  fun_induction stripEmphasis cs with
  | case1 => exact Nat.le_refl 0
  | case2 rest ih =>
    simp only [List.length_cons]
    omega
  | case3 c rest _ ih =>
    simp only [List.length_cons]
    omega

theorem stripEmphasis_of_cut {cs before after : List Char} (h : cut cs = some (before, after)) :
    stripEmphasis cs = before ++ stripEmphasis after := by
  have hcs := stripEmphasis_append_of_cut h ('*' :: '*' :: after)
  rwa [← eq_of_cut h] at hcs

theorem cut_eq_none_iff (cs : List Char) : cut cs = none ↔ ¬ ['*', '*'] <:+: cs := by
  fun_induction cut cs with
  | case1 => simp
  | case2 rest =>
    have hin : ['*', '*'] <:+: '*' :: '*' :: rest := ⟨[], rest, rfl⟩
    simp [hin]
  | case3 c rest hrest ih =>
    have hstart : ¬ ['*', '*'] <+: c :: rest := by
      rintro ⟨tail, htail⟩
      obtain ⟨hc, hrest'⟩ := List.cons.inj htail
      exact hrest tail hc.symm hrest'.symm
    rw [Option.map_eq_none_iff, ih, List.infix_cons_iff, not_or]
    exact ⟨fun h => ⟨hstart, h⟩, And.right⟩

theorem stripEmphasis_eq_self_iff (cs : List Char) : stripEmphasis cs = cs ↔ ¬ ['*', '*'] <:+: cs := by
  rw [← cut_eq_none_iff]
  cases hcut : cut cs with
  | none => simp [stripEmphasis_of_cut_eq_none hcut]
  | some p =>
    obtain ⟨before, after⟩ := p
    have hlength := length_cut hcut
    have hafter := length_stripEmphasis_le after
    have hne : stripEmphasis cs ≠ cs := by
      intro heq
      rw [stripEmphasis_of_cut hcut] at heq
      have hsame := congrArg List.length heq
      rw [List.length_append] at hsame
      omega
    simp [hne]

/-- The characters that the markup of a paragraph shows. -/
def shown (cs : List Char) : List Char := read [] (opened cs)

theorem shown_eq {cs : List Char} {b : Block}
    (h : b.flatMap Element.chars = (emphasize (escape cs)).flatMap breakLine) :
    shown cs = b.flatMap (Element.read []) := by
  rw [shown, opened, ← h, read_opened (by decide)]

theorem read_ofChar (c : Char) : (Element.ofChar c).read [] = [c] := by
  unfold Element.ofChar
  by_cases h : c = '\n'
  · simp [h, Element.read]
  · simp [h, Element.read, Piece.source_ofChar]

theorem read_map_ofChar (cs : List Char) : (cs.map Element.ofChar).flatMap (Element.read []) = cs := by
  induction cs with
  | nil => rfl
  | cons c cs ih => rw [List.map_cons, List.flatMap_cons, read_ofChar, ih, List.singleton_append]

theorem shown_of_cut_eq_none {cs : List Char} (h : cut cs = none) : shown cs = cs := by
  have hchars : (cs.map Element.ofChar).flatMap Element.chars = (emphasize (escape cs)).flatMap breakLine := by
    rw [chars_elements, emphasize_of_cut_eq_none (by rw [cut_escape, h]; rfl)]
  rw [shown_eq hchars, read_map_ofChar]

theorem shown_plain {cs before after : List Char} (h : cut cs = some (before, after))
    (hplain : ∀ inner rest, cut after = some (inner, rest) → ¬ (inner ≠ [] ∧ '\n' ∉ inner)) :
    shown cs = before ++ '*' :: '*' :: shown after := by
  obtain ⟨b, hb, -⟩ := exists_elements after
  rw [shown_eq (chars_of_plain h hplain hb), shown_eq hb, List.flatMap_append, read_map_ofChar]
  simp

theorem shown_strong {cs before after inner rest : List Char} (h : cut cs = some (before, after))
    (h' : cut after = some (inner, rest)) (hinner : inner ≠ [] ∧ '\n' ∉ inner) :
    shown cs = before ++ (inner ++ shown rest) := by
  obtain ⟨b, hb, -⟩ := exists_elements rest
  obtain ⟨first, more, hsource, hchars⟩ := exists_strong h h' hinner hb
  rw [shown_eq hchars, shown_eq hb, List.flatMap_append, read_map_ofChar, List.flatMap_cons, Element.read, hsource]
  simp

theorem stripEmphasis_shown_plain {cs before after : List Char} (h : cut cs = some (before, after))
    (hplain : ∀ inner rest, cut after = some (inner, rest) → ¬ (inner ≠ [] ∧ '\n' ∉ inner))
    (ih : stripEmphasis (shown after) = stripEmphasis after) : stripEmphasis (shown cs) = stripEmphasis cs := by
  rw [shown_plain h hplain, stripEmphasis_append_of_cut h, stripEmphasis, ih, stripEmphasis_of_cut h]

theorem stripEmphasis_shown (cs : List Char) : stripEmphasis (shown cs) = stripEmphasis cs := by
  induction cs using emphasize.induct with
  | case1 cs hcut => rw [shown_of_cut_eq_none hcut]
  | case2 cs before after hcut _ hnone ih =>
    apply stripEmphasis_shown_plain hcut _ ih
    intro inner rest h
    rw [hnone] at h
    cases h
  | case3 cs before after hcut _ inner rest hcut' _ hinner ih =>
    rw [shown_strong hcut hcut' hinner, stripEmphasis_append_of_cut hcut, stripEmphasis_append_of_cut hcut', ih,
      stripEmphasis_of_cut hcut, stripEmphasis_of_cut hcut']
  | case4 cs before after hcut _ inner rest hcut' _ hinner ih =>
    apply stripEmphasis_shown_plain hcut _ ih
    intro i r h
    obtain ⟨rfl, rfl⟩ := Prod.mk.inj (Option.some.inj (hcut'.symm.trans h))
    exact hinner

/-- The terminal shows what the block of a paragraph says, but for asterisks. It shows the same exactly if
the block does not show two asterisks in a row. -/
theorem terminal_shows_the_words (raw : String) (i : Nat) (p : String)
    (h : (Prose.ofText raw).paragraphs[i]? = some p) :
    ∃ b, (splitBlocks (Prose.ofText raw).html.toList)[i]? = some b ∧
      stripEmphasis p.toList = stripEmphasis (read [] b) ∧
      (stripEmphasis p.toList = read [] b ↔ ¬ ['*', '*'] <:+: read [] b) := by
  obtain ⟨cs, hcs, rfl⟩ : ∃ cs, (splitParagraphs raw.toList)[i]? = some cs ∧ String.ofList cs = p := by
    rwa [Prose.ofText, List.getElem?_map, Option.map_eq_some_iff] at h
  have hsome : splitParagraphs raw.toList ≠ [] := by
    intro hnone
    rw [hnone] at hcs
    cases hcs
  have hblock : (splitBlocks (Prose.ofText raw).html.toList)[i]? = some (opened cs) := by
    rw [Prose.ofText, String.toList_ofList, splitBlocks_markup hsome, List.getElem?_map, hcs]
    rfl
  have hwords : stripEmphasis cs = stripEmphasis (read [] (opened cs)) := (stripEmphasis_shown cs).symm
  rw [String.toList_ofList]
  refine ⟨opened cs, hblock, hwords, ?_⟩
  rw [hwords]
  exact stripEmphasis_eq_self_iff _

theorem terminal_shows_the_words_of_a_warning :
    (Prose.ofText "**Mind**\nthe *gap*.\n\n2 ** 3").paragraphs[0]? = some "**Mind**\nthe *gap*." ∧
      ∃ b, (splitBlocks (Prose.ofText "**Mind**\nthe *gap*.\n\n2 ** 3").html.toList)[0]? = some b ∧
        stripEmphasis "**Mind**\nthe *gap*.".toList = read [] b := by
  have hfirst : (Prose.ofText "**Mind**\nthe *gap*.\n\n2 ** 3").paragraphs[0]? =
      some "**Mind**\nthe *gap*." := by decide +kernel
  obtain ⟨b, hb, -, hiff⟩ := terminal_shows_the_words _ 0 _ hfirst
  have hblock : (splitBlocks (Prose.ofText "**Mind**\nthe *gap*.\n\n2 ** 3").html.toList)[0]? =
      some "<p><strong>Mind</strong><br/>the *gap*.".toList := by decide +kernel
  obtain rfl := Option.some.inj (hblock.symm.trans hb)
  have hread : read [] "<p><strong>Mind</strong><br/>the *gap*.".toList = "Mind\nthe *gap*.".toList := by
    decide +kernel
  refine ⟨hfirst, _, hb, hiff.2 ?_⟩
  rw [hread]
  decide +kernel

/-- Two asterisks on their own are shown by the block and not on the terminal. -/
theorem terminal_drops_lone_asterisks :
    ∃ p b, (Prose.ofText "2 ** 3").paragraphs[0]? = some p ∧
      (splitBlocks (Prose.ofText "2 ** 3").html.toList)[0]? = some b ∧
      stripEmphasis p.toList = "2  3".toList ∧ read [] b = "2 ** 3".toList :=
  ⟨"2 ** 3", "<p>2 ** 3".toList, by decide +kernel, by decide +kernel, by decide +kernel, by decide +kernel⟩

end Gamebook.Player
