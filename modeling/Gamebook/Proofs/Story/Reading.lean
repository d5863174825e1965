import Gamebook.Proofs.Story.Markup

/-! Markup read back as text. A reader puts a line feed for each line break and a mark on either side of
what is strong, leaves out the other tags, and then puts characters for entities. Read with two asterisks
for a mark, the blocks of a text are its paragraphs again. The main statement is `markup_reads_back`. -/
namespace Gamebook.Story

namespace Markup

/-- The text in which a name between two marks gives way to what it means; the name is gathered from
behind the first mark on. -/
def expand (start stop : Char) (meaning : List Char → List Char) : Option (List Char) → List Char → List Char
  | none, [] => []
  | some name, [] => start :: name
  | none, c :: cs =>
    if c = start then expand start stop meaning (some []) cs else c :: expand start stop meaning none cs
  | some name, c :: cs =>
    if c = stop then meaning name ++ expand start stop meaning none cs
    else expand start stop meaning (some (name ++ [c])) cs

theorem expand_append {start stop : Char} {meaning : List Char → List Char} {cs : List Char} (h : start ∉ cs)
    (ds : List Char) :
    expand start stop meaning none (cs ++ ds) = cs ++ expand start stop meaning none ds := by
  induction cs with
  | nil => rfl
  | cons c cs ih =>
    obtain ⟨hc, hcs⟩ := not_or.1 (mt List.mem_cons.2 h)
    rw [List.cons_append, expand, if_neg (Ne.symm hc), ih hcs]
    rfl

def tagText (mark name : List Char) : List Char :=
  if name = ['b', 'r', '/'] then ['\n']
  else if name = ['s', 't', 'r', 'o', 'n', 'g'] then mark
  else if name = ['/', 's', 't', 'r', 'o', 'n', 'g'] then mark
  else []

/-- What is read for an entity; there are no others than the five. -/
def entityText (name : List Char) : List Char :=
  match [Entity.amp, .lt, .gt, .quot, .apos].find? fun e => e.chars = '&' :: name ++ [';'] with
  | some e => [e.source]
  | none => '&' :: name ++ [';']

def untag (mark cs : List Char) : List Char := expand '<' '>' (tagText mark) none cs

def unescape (cs : List Char) : List Char := expand '&' ';' entityText none cs

def read (mark cs : List Char) : List Char := unescape (untag mark cs)

/-- The blocks of a page, without their ends. -/
def splitBlocks : List Char → List (List Char)
  | [] => []
  | '<' :: '/' :: 'p' :: '>' :: rest => [] :: splitBlocks rest
  | c :: rest =>
    match splitBlocks rest with
    | [] => [[c]]
    | b :: bs => (c :: b) :: bs

/-- The paragraphs that a page says; one empty block says nothing. -/
def decode (html : String) : List String :=
  let ps := (splitBlocks html.toList).map (read ['*', '*'])
  if ps = [[]] then [] else ps.map String.ofList

def Element.untagged (mark : List Char) : Element → List Char
  | piece p => p.chars
  | lineBreak => ['\n']
  | strong first rest => mark ++ (first :: rest).flatMap Piece.chars ++ mark

def Element.read (mark : List Char) : Element → List Char
  | piece p => [p.source]
  | lineBreak => ['\n']
  | strong first rest => mark ++ (first :: rest).map Piece.source ++ mark

theorem val_ne_of_mem_special {d : Char} (h : d ∈ special) (c : { c : Char // c ∉ special }) : c.val ≠ d := by
  rintro rfl
  exact c.property h

theorem lt_notMem_piece (p : Piece) : '<' ∉ p.chars := by
  cases p with
  | plain c => simpa [Piece.chars] using (val_ne_of_mem_special (by decide) c).symm
  | entity e => cases e <;> decide

theorem lt_notMem_pieces (ps : List Piece) : '<' ∉ ps.flatMap Piece.chars := by
  simp [lt_notMem_piece]

theorem untag_element (mark : List Char) (e : Element) (ds : List Char) :
    untag mark (e.chars ++ ds) = e.untagged mark ++ untag mark ds := by
  cases e with
  | piece p => exact expand_append (lt_notMem_piece p) ds
  | lineBreak => rfl
  | strong first rest =>
    have hopen : ∀ cs, untag mark (['<', 's', 't', 'r', 'o', 'n', 'g', '>'] ++ cs) = mark ++ untag mark cs :=
      fun cs => rfl
    have hclose : untag mark (['<', '/', 's', 't', 'r', 'o', 'n', 'g', '>'] ++ ds) = mark ++ untag mark ds := rfl
    have hinner : ∀ cs, untag mark ((first :: rest).flatMap Piece.chars ++ cs) =
      (first :: rest).flatMap Piece.chars ++ untag mark cs := expand_append (lt_notMem_pieces _)
    rw [Element.chars, List.append_assoc, List.append_assoc, hopen, hinner, hclose, Element.untagged]
    simp only [List.append_assoc]

theorem unescape_piece (p : Piece) (ds : List Char) : unescape (p.chars ++ ds) = p.source :: unescape ds := by
  cases p with
  | plain c =>
    have hc : '&' ∉ [c.val] := by simpa using (val_ne_of_mem_special (by decide) c).symm
    exact expand_append hc ds
  | entity e => cases e <;> rfl

theorem unescape_pieces (ps : List Piece) (ds : List Char) :
    unescape (ps.flatMap Piece.chars ++ ds) = ps.map Piece.source ++ unescape ds := by
  induction ps with
  | nil => rfl
  | cons p ps ih => rw [List.flatMap_cons, List.append_assoc, unescape_piece, ih, List.map_cons, List.cons_append]

theorem unescape_untagged {mark : List Char} (hmark : '&' ∉ mark) (e : Element) (ds : List Char) :
    unescape (e.untagged mark ++ ds) = e.read mark ++ unescape ds := by
  cases e with
  | piece p => exact unescape_piece p ds
  | lineBreak => rfl
  | strong first rest =>
    have hplain : ∀ cs, unescape (mark ++ cs) = mark ++ unescape cs := expand_append hmark
    rw [Element.untagged, List.append_assoc, List.append_assoc, hplain, unescape_pieces, hplain, Element.read]
    simp only [List.append_assoc]

theorem read_elements {mark : List Char} (hmark : '&' ∉ mark) (b : Block) (ds : List Char) :
    read mark (b.flatMap Element.chars ++ ds) = b.flatMap (Element.read mark) ++ read mark ds := by
  induction b with
  | nil => rfl
  | cons e b ih =>
    rw [read] at ih ⊢
    rw [List.flatMap_cons, List.append_assoc, untag_element, unescape_untagged hmark, ih, List.flatMap_cons,
      List.append_assoc]

theorem read_opened {mark : List Char} (hmark : '&' ∉ mark) (b : Block) :
    read mark (['<', 'p', '>'] ++ b.flatMap Element.chars) = b.flatMap (Element.read mark) := by
  have hopen : ∀ cs, read mark (['<', 'p', '>'] ++ cs) = read mark cs := fun cs => rfl
  have hend : read mark [] = [] := rfl
  have helements := read_elements hmark b []
  rw [List.append_nil, hend, List.append_nil] at helements
  rw [hopen, helements]

/-- Two asterisks for a mark give back what an element stands for. -/
theorem read_asterisks : Element.read ['*', '*'] = Element.source := by
  funext e
  cases e <;> rfl

section

variable {rest b : List Char} {bs : List (List Char)}

theorem splitBlocks_cons {c : Char} (hc : c = '<' → rest.head? ≠ some '/') (h : splitBlocks rest = b :: bs) :
    splitBlocks (c :: rest) = (c :: b) :: bs := by
  rw [splitBlocks, h]
  rintro tail rfl rfl
  exact hc rfl rfl

theorem splitBlocks_append {cs : List Char} (hcs : '<' ∉ cs) (h : splitBlocks rest = b :: bs) :
    splitBlocks (cs ++ rest) = (cs ++ b) :: bs := by
  induction cs with
  | nil => exact h
  | cons c cs ih =>
    obtain ⟨hc, hcs⟩ := not_or.1 (mt List.mem_cons.2 hcs)
    exact splitBlocks_cons (fun he => absurd he.symm hc) (ih hcs)

theorem splitBlocks_tag {c : Char} {name : List Char} (hc : c ≠ '/') (hname : '<' ∉ c :: name)
    (h : splitBlocks rest = b :: bs) :
    splitBlocks ('<' :: c :: name ++ rest) = ('<' :: c :: name ++ b) :: bs :=
  splitBlocks_cons (fun _ => by simpa using hc) (splitBlocks_append hname h)

theorem splitBlocks_element (e : Element) (h : splitBlocks rest = b :: bs) :
    splitBlocks (e.chars ++ rest) = (e.chars ++ b) :: bs := by
  cases e with
  | piece p => exact splitBlocks_append (lt_notMem_piece p) h
  | lineBreak => exact splitBlocks_tag (by decide) (by decide) h
  | strong first more =>
    have hclose : splitBlocks (['<', '/', 's', 't', 'r', 'o', 'n', 'g', '>'] ++ rest) =
        (['<', '/', 's', 't', 'r', 'o', 'n', 'g', '>'] ++ b) :: bs := by simp [splitBlocks, h]
    have hinner := splitBlocks_append (lt_notMem_pieces (first :: more)) hclose
    rw [Element.chars, List.append_assoc, List.append_assoc, List.append_assoc, List.append_assoc]
    exact splitBlocks_tag (by decide) (by decide) hinner

theorem splitBlocks_elements (es : Block) (h : splitBlocks rest = b :: bs) :
    splitBlocks (es.flatMap Element.chars ++ rest) = (es.flatMap Element.chars ++ b) :: bs := by
  induction es with
  | nil => exact h
  | cons e es ih =>
    rw [List.flatMap_cons, List.append_assoc, List.append_assoc]
    exact splitBlocks_element e ih

end

theorem splitBlocks_block (b : Block) (rest : List Char) :
    splitBlocks (b.chars ++ rest) = (['<', 'p', '>'] ++ b.flatMap Element.chars) :: splitBlocks rest := by
  have hend : splitBlocks (['<', '/', 'p', '>'] ++ rest) = [] :: splitBlocks rest := rfl
  have helements := splitBlocks_elements b hend
  rw [List.append_nil] at helements
  rw [Block.chars, List.append_assoc, List.append_assoc]
  exact splitBlocks_tag (by decide) (by decide) helements

end Markup

namespace Prose

open Markup

theorem nil_notMem_gather (ls : List (List Char)) : [] ∉ gather ls := by
  unfold gather
  by_cases h : Text.trimChars (joinLines ls) = [] <;> simp [h]

theorem nil_notMem_divide (gathered ls : List (List Char)) : [] ∉ divide gathered ls := by
  induction ls generalizing gathered with
  | nil => exact nil_notMem_gather gathered
  | cons l ls ih =>
    rw [divide]
    by_cases h : l.all Text.isBlank
    · simp [h, nil_notMem_gather, ih]
    · simpa [h] using ih (gathered ++ [l])

def opened (cs : List Char) : List Char := ['<', 'p', '>'] ++ (emphasize (escape cs)).flatMap breakLine

theorem splitBlocks_flatMap_block (ps : List (List Char)) : splitBlocks (ps.flatMap block) = ps.map opened := by
  induction ps with
  | nil => rfl
  | cons p ps ih =>
    obtain ⟨b, hb, -⟩ := exists_elements p
    have hblock : block p = b.chars := by rw [Block.chars, hb, block]
    rw [List.flatMap_cons, hblock, splitBlocks_block, ih, List.map_cons, opened, hb]

theorem splitBlocks_markup {ps : List (List Char)} (h : ps ≠ []) : splitBlocks (markup ps) = ps.map opened := by
  rw [markup, if_neg h, splitBlocks_flatMap_block]

theorem read_asterisks_opened (cs : List Char) : read ['*', '*'] (opened cs) = cs := by
  obtain ⟨b, hb, hsource⟩ := exists_elements cs
  rw [opened, ← hb, read_opened (by decide), read_asterisks]
  exact hsource

theorem decode_markup {ps : List (List Char)} (h : [] ∉ ps) :
    decode (String.ofList (markup ps)) = ps.map String.ofList := by
  unfold decode
  rw [String.toList_ofList]
  by_cases hnone : ps = []
  · have hempty : emphasize [] = [] := emphasize_of_cut_eq_none rfl
    subst hnone
    simp only [markup, if_true, block, escape, List.flatMap_nil, hempty]
    rfl
  · have hread : (ps.map opened).map (read ['*', '*']) = ps := by
      rw [List.map_map]
      exact List.map_id'' read_asterisks_opened ps
    have hps : ps ≠ [[]] := by
      rintro rfl
      exact h List.mem_cons_self
    rw [splitBlocks_markup hnone, hread]
    exact if_neg hps

/-- The html of a text gives back its paragraphs, and it is that of another text exactly if the paragraphs
are. -/
theorem markup_reads_back (raw other : String) :
    decode (Prose.ofText raw).html = (Prose.ofText raw).paragraphs ∧
      ((Prose.ofText raw).html = (Prose.ofText other).html ↔
        (Prose.ofText raw).paragraphs = (Prose.ofText other).paragraphs) := by
  have hdecode : ∀ text, decode (Prose.ofText text).html = (Prose.ofText text).paragraphs :=
    fun text => decode_markup (nil_notMem_divide [] _)
  refine ⟨hdecode raw, fun hhtml => ?_, fun hparagraphs => ?_⟩
  · rw [← hdecode raw, hhtml, hdecode other]
  · have hps : splitParagraphs raw.toList = splitParagraphs other.toList :=
      (List.map_inj_right fun _ _ => String.ofList_injective).1 hparagraphs
    exact congrArg (fun ps => String.ofList (markup ps)) hps

end Prose
end Gamebook.Story
