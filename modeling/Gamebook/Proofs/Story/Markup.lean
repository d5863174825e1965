import Gamebook.Story.Prose
import Mathlib.Tactic.SplitIfs

/-! The markup that a panel shows, as trees. A page is one block or more; a block is a row of characters,
entities, line breaks and strong spans, and a span holds characters and entities only. Each tree has a
spelling, and a source: the text that it stands for. The main statement is `html_is_markup`: whatever
the text of a scene is, its html spells a page, and the page stands for the paragraphs of the text. -/
namespace Gamebook.Story

namespace Markup

/-- The characters that never stand for themselves in a block. -/
def special : List Char := ['\n', '<', '>', '"', '\'', '&']

inductive Entity
  | amp
  | lt
  | gt
  | quot
  | apos
  deriving DecidableEq, Repr

def Entity.chars : Entity → List Char
  | amp => ['&', 'a', 'm', 'p', ';']
  | lt => ['&', 'l', 't', ';']
  | gt => ['&', 'g', 't', ';']
  | quot => ['&', 'q', 'u', 'o', 't', ';']
  | apos => ['&', '#', '0', '3', '9', ';']

def Entity.source : Entity → Char
  | amp => '&'
  | lt => '<'
  | gt => '>'
  | quot => '"'
  | apos => '\''

inductive Piece
  | plain (c : { c : Char // c ∉ special })
  | entity (e : Entity)
  deriving DecidableEq

def Piece.chars : Piece → List Char
  | plain c => [c.val]
  | entity e => e.chars

def Piece.source : Piece → Char
  | plain c => c.val
  | entity e => e.source

/-- A strong span is not empty, and holds neither spans nor line breaks. -/
inductive Element
  | piece (p : Piece)
  | lineBreak
  | strong (first : Piece) (rest : List Piece)
  deriving DecidableEq

def Element.chars : Element → List Char
  | piece p => p.chars
  | lineBreak => ['<', 'b', 'r', '/', '>']
  | strong first rest =>
    ['<', 's', 't', 'r', 'o', 'n', 'g', '>'] ++ (first :: rest).flatMap Piece.chars ++
      ['<', '/', 's', 't', 'r', 'o', 'n', 'g', '>']

def Element.source : Element → List Char
  | piece p => [p.source]
  | lineBreak => ['\n']
  | strong first rest => ['*', '*'] ++ (first :: rest).map Piece.source ++ ['*', '*']

abbrev Block := List Element

def Block.chars (b : Block) : List Char := ['<', 'p', '>'] ++ b.flatMap Element.chars ++ ['<', '/', 'p', '>']

def Block.source (b : Block) : List Char := b.flatMap Element.source

structure Page where
  blocks : List Block
  nonempty : blocks ≠ []

def Page.html (p : Page) : String := String.ofList (p.blocks.flatMap Block.chars)

def Page.sources (p : Page) : List String := p.blocks.map fun b => String.ofList b.source

def Piece.ofChar (c : Char) (h : c ≠ '\n') : Piece :=
  if hamp : c = '&' then .entity .amp
  else if hlt : c = '<' then .entity .lt
  else if hgt : c = '>' then .entity .gt
  else if hquot : c = '"' then .entity .quot
  else if hapos : c = '\'' then .entity .apos
  else .plain ⟨c, by simp [special, *]⟩

theorem Piece.chars_ofChar {c : Char} (h : c ≠ '\n') : (ofChar c h).chars = Prose.entity c := by
  unfold ofChar Prose.entity
  split_ifs <;> rfl

theorem Piece.source_ofChar {c : Char} (h : c ≠ '\n') : (ofChar c h).source = c := by
  unfold ofChar
  split_ifs <;> simp [source, Entity.source, *]

def Element.ofChar (c : Char) : Element :=
  if h : c = '\n' then .lineBreak else .piece (Piece.ofChar c h)

theorem Element.source_ofChar (c : Char) : (ofChar c).source = [c] := by
  unfold ofChar
  split_ifs with h
  · rw [h]
    rfl
  · simp [source, Piece.source_ofChar h]

end Markup

namespace Prose

open Markup

theorem flatMap_breakLine {cs : List Char} (h : '\n' ∉ cs) : cs.flatMap breakLine = cs := by
  induction cs with
  | nil => rfl
  | cons c cs ih =>
    obtain ⟨hc, hcs⟩ := not_or.1 (mt List.mem_cons.2 h)
    rw [List.flatMap_cons, ih hcs, breakLine, if_neg (Ne.symm hc)]
    rfl

theorem newline_notMem_entity {c : Char} (h : c ≠ '\n') : '\n' ∉ entity c := by
  unfold entity
  split_ifs <;> simp [Ne.symm h]

theorem star_notMem_entity {c : Char} (h : c ≠ '*') : '*' ∉ entity c := by
  unfold entity
  split_ifs <;> simp [Ne.symm h]

theorem entity_ne_nil (c : Char) : entity c ≠ [] := by
  unfold entity
  split_ifs <;> simp

theorem escape_cons (c : Char) (cs : List Char) : escape (c :: cs) = entity c ++ escape cs := rfl

theorem escape_append (cs ds : List Char) : escape (cs ++ ds) = escape cs ++ escape ds :=
  List.flatMap_append

theorem newline_mem_escape_iff (cs : List Char) : '\n' ∈ escape cs ↔ '\n' ∈ cs := by
  constructor
  · intro hmem
    obtain ⟨c, hc, hmem⟩ := List.mem_flatMap.1 hmem
    by_cases he : c = '\n'
    · exact he ▸ hc
    · exact absurd hmem (newline_notMem_entity he)
  · exact fun hmem => List.mem_flatMap.2 ⟨'\n', hmem, List.mem_singleton.2 rfl⟩

theorem escape_eq_nil_iff (cs : List Char) : escape cs = [] ↔ cs = [] := by
  cases cs with
  | nil => simp [escape]
  | cons c cs => simp [escape_cons, entity_ne_nil]

theorem chars_element (c : Char) : (Element.ofChar c).chars = (entity c).flatMap breakLine := by
  unfold Element.ofChar
  split_ifs with h
  · rw [h]
    rfl
  · rw [flatMap_breakLine (newline_notMem_entity h)]
    exact Piece.chars_ofChar h

theorem chars_elements (cs : List Char) :
    (cs.map Element.ofChar).flatMap Element.chars = (escape cs).flatMap breakLine := by
  induction cs with
  | nil => rfl
  | cons c cs ih => rw [List.map_cons, List.flatMap_cons, ih, escape_cons, List.flatMap_append, chars_element]

theorem source_elements (cs : List Char) : Block.source (cs.map Element.ofChar) = cs := by
  induction cs with
  | nil => rfl
  | cons c cs ih =>
    have hcs : (cs.map Element.ofChar).flatMap Element.source = cs := ih
    simp [Block.source, Element.source_ofChar, hcs]

theorem exists_pieces {cs : List Char} (h : '\n' ∉ cs) :
    ∃ ps : List Piece, ps.flatMap Piece.chars = escape cs ∧ ps.map Piece.source = cs := by
  induction cs with
  | nil => exact ⟨[], rfl, rfl⟩
  | cons c cs ih =>
    obtain ⟨hc, hcs⟩ := not_or.1 (mt List.mem_cons.2 h)
    obtain ⟨ps, hchars, hsource⟩ := ih hcs
    refine ⟨Piece.ofChar c (Ne.symm hc) :: ps, ?_, ?_⟩
    · rw [List.flatMap_cons, hchars, Piece.chars_ofChar, escape_cons]
    · rw [List.map_cons, hsource, Piece.source_ofChar]

theorem cut_cons {c : Char} {cs : List Char} (h : c = '*' → cs.head? ≠ some '*') :
    cut (c :: cs) = (cut cs).map fun p => (c :: p.1, p.2) := by
  rw [cut]
  rintro rest rfl rfl
  exact h rfl rfl

theorem cut_append {cs : List Char} (h : '*' ∉ cs) (ds : List Char) :
    cut (cs ++ ds) = (cut ds).map fun p => (cs ++ p.1, p.2) := by
  induction cs with
  | nil => simp
  | cons c cs ih =>
    obtain ⟨hc, hcs⟩ := not_or.1 (mt List.mem_cons.2 h)
    rw [List.cons_append, cut_cons fun he => absurd he.symm hc, ih hcs, Option.map_map]
    rfl

theorem head?_escape (cs : List Char) : (escape cs).head? = some '*' ↔ cs.head? = some '*' := by
  cases cs with
  | nil => rfl
  | cons c cs =>
    by_cases hc : c = '*'
    · subst hc
      rfl
    · have hne : (escape (c :: cs)).head? ≠ some '*' := by
        have hstar := star_notMem_entity hc
        rw [escape_cons]
        cases he : entity c with
        | nil => exact absurd he (entity_ne_nil c)
        | cons d ds =>
          rw [he] at hstar
          simp [Ne.symm (List.ne_of_not_mem_cons hstar)]
      simp [hne, hc]

theorem cut_escape (cs : List Char) :
    cut (escape cs) = (cut cs).map fun p => (escape p.1, escape p.2) := by
  fun_induction cut cs with
  | case1 => rfl
  | case2 rest => rfl
  | case3 c rest hrest ih =>
    have hmap : ((cut rest).map fun p => (escape p.1, escape p.2)).map (fun p => (entity c ++ p.1, p.2)) =
        ((cut rest).map fun p => (c :: p.1, p.2)).map fun p => (escape p.1, escape p.2) := by
      rw [Option.map_map, Option.map_map]
      rfl
    rw [escape_cons, ← hmap, ← ih]
    by_cases hc : c = '*'
    · subst hc
      refine cut_cons fun _ hhead => ?_
      obtain ⟨ds, hds⟩ := List.head?_eq_some_iff.1 ((head?_escape rest).1 hhead)
      exact hrest ds rfl hds
    · exact cut_append (star_notMem_entity hc) _

theorem emphasize_of_cut_eq_none {cs : List Char} (h : cut cs = none) : emphasize cs = cs := by
  rw [emphasize]
  split
  · rfl
  · simp_all

theorem emphasize_strong {cs before after inner rest : List Char} (h : cut cs = some (before, after))
    (h' : cut after = some (inner, rest)) (hinner : inner ≠ [] ∧ '\n' ∉ inner) :
    emphasize cs = before ++ strongOpen ++ inner ++ strongClose ++ emphasize rest := by
  rw [emphasize]
  split
  · simp_all
  · rename_i b a hcut
    obtain ⟨rfl, rfl⟩ := Prod.mk.inj (Option.some.inj (hcut.symm.trans h))
    split
    · simp_all
    · rename_i i r hcut'
      obtain ⟨rfl, rfl⟩ := Prod.mk.inj (Option.some.inj (hcut'.symm.trans h'))
      rw [if_pos hinner]

theorem emphasize_plain {cs before after : List Char} (h : cut cs = some (before, after))
    (h' : ∀ inner rest, cut after = some (inner, rest) → ¬ (inner ≠ [] ∧ '\n' ∉ inner)) :
    emphasize cs = before ++ '*' :: '*' :: emphasize after := by
  rw [emphasize]
  split
  · simp_all
  · rename_i b a hcut
    obtain ⟨rfl, rfl⟩ := Prod.mk.inj (Option.some.inj (hcut.symm.trans h))
    split
    · rfl
    · rename_i i r hcut'
      rw [if_neg (h' i r hcut')]

/-- Asterisks that open nothing are written as they are. -/
theorem chars_of_plain {cs before after : List Char} (hcut : cut cs = some (before, after))
    (hplain : ∀ inner rest, cut after = some (inner, rest) → ¬ (inner ≠ [] ∧ '\n' ∉ inner)) {b : Block}
    (hb : b.flatMap Element.chars = (emphasize (escape after)).flatMap breakLine) :
    ((before ++ ['*', '*']).map Element.ofChar ++ b).flatMap Element.chars =
      (emphasize (escape cs)).flatMap breakLine := by
  have hcut' : cut (escape cs) = some (escape before, escape after) := by rw [cut_escape, hcut]; rfl
  have hplain' : ∀ inner rest, cut (escape after) = some (inner, rest) →
      ¬ (inner ≠ [] ∧ '\n' ∉ inner) := by
    intro inner rest h
    rw [cut_escape, Option.map_eq_some_iff] at h
    obtain ⟨⟨i, r⟩, hir, he⟩ := h
    obtain ⟨rfl, rfl⟩ := Prod.mk.inj he
    rw [Ne, escape_eq_nil_iff, newline_mem_escape_iff]
    exact hplain i r hir
  rw [emphasize_plain hcut' hplain', List.flatMap_append, hb, chars_elements, escape_append,
    List.flatMap_append, List.flatMap_append, List.append_assoc]
  rfl

theorem exists_strong {cs before after inner rest : List Char} (hcut : cut cs = some (before, after))
    (hcut' : cut after = some (inner, rest)) (hinner : inner ≠ [] ∧ '\n' ∉ inner) {b : Block}
    (hb : b.flatMap Element.chars = (emphasize (escape rest)).flatMap breakLine) :
    ∃ first more, (first :: more).map Piece.source = inner ∧
      (before.map Element.ofChar ++ .strong first more :: b).flatMap Element.chars =
        (emphasize (escape cs)).flatMap breakLine := by
  obtain ⟨ps, hchars, hsource⟩ := exists_pieces hinner.2
  cases ps with
  | nil =>
    have hnil : inner = [] := by rw [← hsource, List.map_nil]
    exact absurd hnil hinner.1
  | cons first more =>
    refine ⟨first, more, hsource, ?_⟩
    have hesc : cut (escape cs) = some (escape before, escape after) := by rw [cut_escape, hcut]; rfl
    have hesc' : cut (escape after) = some (escape inner, escape rest) := by rw [cut_escape, hcut']; rfl
    have hspan : escape inner ≠ [] ∧ '\n' ∉ escape inner := by
      rwa [Ne, escape_eq_nil_iff, newline_mem_escape_iff]
    have hopen : strongOpen.flatMap breakLine = strongOpen := rfl
    have hclose : strongClose.flatMap breakLine = strongClose := rfl
    rw [emphasize_strong hesc hesc' hspan, List.flatMap_append, List.flatMap_cons, hb, chars_elements,
      Element.chars, hchars]
    simp only [List.flatMap_append, flatMap_breakLine hspan.2, hopen, hclose, List.append_assoc]
    rfl

theorem source_append (b b' : Block) : Block.source (b ++ b') = b.source ++ b'.source :=
  List.flatMap_append

/-- What is emphasized in a paragraph spells a block, which stands for the paragraph. -/
theorem exists_elements (cs : List Char) :
    ∃ b : Block, b.flatMap Element.chars = (emphasize (escape cs)).flatMap breakLine ∧ b.source = cs := by
  induction cs using emphasize.induct with
  | case1 cs hcut =>
    have hesc : cut (escape cs) = none := by rw [cut_escape, hcut]; rfl
    exact ⟨cs.map Element.ofChar, by rw [chars_elements, emphasize_of_cut_eq_none hesc], source_elements cs⟩
  | case2 cs before after hcut _ hnone ih =>
    obtain ⟨b, hchars, hsource⟩ := ih
    refine ⟨_, chars_of_plain hcut (fun inner rest h => ?_) hchars, ?_⟩
    · rw [hnone] at h
      cases h
    · rw [source_append, source_elements, hsource, eq_of_cut hcut]
      simp
  | case3 cs before after hcut _ inner rest hcut' _ hinner ih =>
    obtain ⟨b, hchars, hsource⟩ := ih
    obtain ⟨first, more, hstrong, hspan⟩ := exists_strong hcut hcut' hinner hchars
    refine ⟨_, hspan, ?_⟩
    have hcs : cs = before ++ '*' :: '*' :: (inner ++ '*' :: '*' :: rest) := by
      rw [eq_of_cut hcut, eq_of_cut hcut']
    have hb : Block.source (.strong first more :: b) = '*' :: '*' :: (inner ++ '*' :: '*' :: rest) := by
      show Element.source _ ++ Block.source b = _
      rw [Element.source, hstrong, hsource]
      simp
    rw [source_append, source_elements, hb, hcs]
  | case4 cs before after hcut _ inner rest hcut' _ hinner ih =>
    obtain ⟨b, hchars, hsource⟩ := ih
    refine ⟨_, chars_of_plain hcut (fun i r h => ?_) hchars, ?_⟩
    · obtain ⟨rfl, rfl⟩ := Prod.mk.inj (Option.some.inj (hcut'.symm.trans h))
      exact hinner
    · rw [source_append, source_elements, hsource, eq_of_cut hcut]
      simp

theorem exists_block (cs : List Char) : ∃ b : Block, b.chars = block cs ∧ b.source = cs := by
  obtain ⟨b, hchars, hsource⟩ := exists_elements cs
  refine ⟨b, ?_, hsource⟩
  rw [Block.chars, hchars]
  rfl

theorem exists_blocks (ps : List (List Char)) :
    ∃ bs : List Block, bs.flatMap Block.chars = ps.flatMap block ∧ bs.map Block.source = ps := by
  induction ps with
  | nil => exact ⟨[], rfl, rfl⟩
  | cons p ps ih =>
    obtain ⟨b, hchars, hsource⟩ := exists_block p
    obtain ⟨bs, hbs, hsources⟩ := ih
    exact ⟨b :: bs, by rw [List.flatMap_cons, List.flatMap_cons, hchars, hbs], by
      rw [List.map_cons, hsource, hsources]⟩

/-- What is shown for a text spells a page, one block for each paragraph; a text without any has one
empty block. -/
theorem html_is_markup (raw : String) :
    ∃ page : Page, (Prose.ofText raw).html = page.html ∧
      page.sources = if (Prose.ofText raw).paragraphs = [] then [""] else (Prose.ofText raw).paragraphs := by
  by_cases hnone : splitParagraphs raw.toList = []
  · refine ⟨⟨[[]], by simp⟩, ?_, ?_⟩
    · have hempty : emphasize [] = [] := emphasize_of_cut_eq_none rfl
      simp [Prose.ofText, hnone, markup, block, escape, hempty, Page.html, Block.chars]
    · simp [Prose.ofText, hnone, Page.sources, Block.source]
  · obtain ⟨bs, hchars, hsources⟩ := exists_blocks (splitParagraphs raw.toList)
    have hbs : bs ≠ [] := by
      rintro rfl
      exact hnone hsources.symm
    refine ⟨⟨bs, hbs⟩, ?_, ?_⟩
    · rw [Page.html, hchars]
      simp [Prose.ofText, markup, hnone]
    · have hparagraphs : (Prose.ofText raw).paragraphs = bs.map fun b => String.ofList b.source := by
        rw [Prose.ofText, ← hsources, List.map_map]
        rfl
      rw [if_neg (by simpa [Prose.ofText] using hnone), hparagraphs]
      rfl

end Prose
end Gamebook.Story
