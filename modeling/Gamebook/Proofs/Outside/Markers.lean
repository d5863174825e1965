import Gamebook.Outside.Marker
import Mathlib.Tactic.SplitIfs

/-! Markers read back. Each character of a string is written as one piece, and pieces spell what was written; so
what a marker file holds is the marker that was written to it, whatever its names are: `ofText_text`. -/
namespace Gamebook

namespace Json

namespace Body

theorem scan_short {c d : Char} (hd : escape? d = some c) (hunit : d ≠ 'u') (rest : List Char) :
    scan ('\\' :: d :: rest) = (scan rest).map fun r => (.char c :: r.1, r.2) := by
  rw [scan.eq_4 _ _ fun _ _ _ _ _ h => absurd h hunit, hd]
  cases scan rest <;> rfl

theorem scan_unit {a b c d : Char} {n : Nat} (hn : unit? a b c d = some n) (rest : List Char) :
    scan ('\\' :: 'u' :: a :: b :: c :: d :: rest) = (scan rest).map fun r => (.unit n :: r.1, r.2) := by
  rw [scan, hn]
  cases scan rest <;> rfl

theorem scan_plain {c : Char} (hquote : c ≠ '"') (hslash : c ≠ '\\') (hcontrol : ¬ c.toNat < 0x20)
    (rest : List Char) : scan (c :: rest) = (scan rest).map fun r => (.char c :: r.1, r.2) := by
  rw [scan.eq_5 _ _ hquote (fun _ _ _ _ _ h => absurd h hslash) (fun _ _ h => absurd h hslash), if_neg hcontrol]
  cases scan rest <;> rfl

theorem unit?_hexDigits : ∀ n < 0x20, unit? '0' '0' (hexDigit (n / 16)) (hexDigit (n % 16)) = some n := by
  decide

theorem spell_unit {n : Nat} (hn : n < 0xD800) (ps : List Piece) :
    spell (.unit n :: ps) = (spell ps).map (Char.ofNat n :: ·) := by
  have hhigh : isHigh n = false := by simp [isHigh]; omega
  have hlow : isLow n = false := by simp [isLow]; omega
  cases ps with
  | nil => simp [spell, hhigh, hlow]
  | cons p ps => cases p <;> simp [spell, hhigh, hlow]

theorem exists_piece (c : Char) : ∃ piece : Piece,
    (∀ rest, scan (escaped c ++ rest) = (scan rest).map fun r => (piece :: r.1, r.2)) ∧
      ∀ ps, spell (piece :: ps) = (spell ps).map (c :: ·) := by
  unfold escaped
  split_ifs with hquote hslash hback hfeed hline hreturn htab hcontrol
  · exact ⟨.char c, fun rest => scan_short (by rw [hquote]; rfl) (by decide) rest, fun _ => rfl⟩
  · exact ⟨.char c, fun rest => scan_short (by rw [hslash]; rfl) (by decide) rest, fun _ => rfl⟩
  · exact ⟨.char c, fun rest => scan_short (by rw [hback]; rfl) (by decide) rest, fun _ => rfl⟩
  · exact ⟨.char c, fun rest => scan_short (by rw [hfeed]; rfl) (by decide) rest, fun _ => rfl⟩
  · exact ⟨.char c, fun rest => scan_short (by rw [hline]; rfl) (by decide) rest, fun _ => rfl⟩
  · exact ⟨.char c, fun rest => scan_short (by rw [hreturn]; rfl) (by decide) rest, fun _ => rfl⟩
  · exact ⟨.char c, fun rest => scan_short (by rw [htab]; rfl) (by decide) rest, fun _ => rfl⟩
  · refine ⟨.unit c.toNat, fun rest => scan_unit (unit?_hexDigits _ hcontrol) rest, fun ps => ?_⟩
    rw [spell_unit (by omega), Char.ofNat_toNat]
  · exact ⟨.char c, fun rest => scan_plain hquote hslash hcontrol rest, fun _ => rfl⟩

/-- What was written up to the closing quote spells the same again. -/
theorem scan_written (cs rest : List Char) :
    ∃ pieces, scan (cs.flatMap escaped ++ '"' :: rest) = some (pieces, rest) ∧ spell pieces = some cs := by
  induction cs with
  | nil => exact ⟨[], rfl, rfl⟩
  | cons c cs ih =>
    obtain ⟨pieces, hscan, hspell⟩ := ih
    obtain ⟨piece, hpiece, hchar⟩ := exists_piece c
    refine ⟨piece :: pieces, ?_, ?_⟩
    · rw [List.flatMap_cons, List.append_assoc, hpiece, hscan]
      rfl
    · rw [hchar, hspell]
      rfl

end Body

namespace Draft

theorem readString_written (cs rest : List Char) :
    readString (cs.flatMap Body.escaped ++ '"' :: rest) = (string (some (String.ofList cs)), some rest) := by
  obtain ⟨pieces, hscan, hspell⟩ := Body.scan_written cs rest
  simp only [readString, hscan, hspell, Option.map_some]

theorem readTitle_written (name : String) (rest : List Char) :
    readTitle (Body.write name.toList ++ ':' :: rest) = some (⟨some name, ':' :: rest⟩, some rest) := by
  obtain ⟨pieces, hscan, hspell⟩ := Body.scan_written name.toList (':' :: rest)
  rw [Body.write, List.append_assoc]
  show readTitle ('"' :: (name.toList.flatMap Body.escaped ++ '"' :: ':' :: rest)) = _
  rw [readTitle, hscan]
  simp only [hspell, Option.bind_eq_bind, Option.bind_some, Option.map_some, String.ofList_toList]
  rfl

theorem skip_of_head {c : Char} (h : isSpace c = false) (cs : List Char) : skip (c :: cs) = c :: cs :=
  List.dropWhile_cons_of_neg (by simp [h])

theorem skip_space {c : Char} (h : isSpace c = true) (cs : List Char) : skip (c :: cs) = skip cs :=
  List.dropWhile_cons_of_pos h

/-- A member whose value is a string, in front of the rest of a text. -/
def written (name : String) (value : String) (rest : List Char) : List Char :=
  Body.write name.toList ++ ':' :: ' ' :: (Body.write value.toList ++ rest)

def textMember (name : String) (value : String) (rest : List Char) : Title × Placed :=
  (⟨some name, ':' :: ' ' :: (Body.write value.toList ++ rest)⟩, string (some value), rest)

theorem readMember_written (fuel : Nat) (name value : String) (rest : List Char) :
    readTitle (skip (written name value rest)) =
        some ((textMember name value rest).1, some (' ' :: (Body.write value.toList ++ rest))) ∧
      place (skip (' ' :: (Body.write value.toList ++ rest)))
          (readValue (fuel + 1) (skip (' ' :: (Body.write value.toList ++ rest)))) =
        ((textMember name value rest).2, some rest) := by
  constructor
  · exact readTitle_written name _
  · have hvalue : skip (' ' :: (Body.write value.toList ++ rest)) =
        '"' :: (value.toList.flatMap Body.escaped ++ '"' :: rest) := by
      rw [skip_space rfl, Body.write, List.append_assoc]
      rfl
    have hread := readString_written value.toList rest
    rw [String.ofList_toList] at hread
    rw [hvalue, readValue, hread]
    rfl

theorem readValue_object (fuel : Nat) {name value : String} {rest cs : List Char}
    (hcs : skip cs = written name value rest) : readValue (fuel + 1) ('\x7b' :: cs) =
      (object (readMembers fuel (written name value rest)).1 (readMembers fuel (written name value rest)).2.isSome,
        (readMembers fuel (written name value rest)).2) := by
  obtain ⟨ds, hquote⟩ : ∃ ds, written name value rest = '"' :: ds := ⟨_, rfl⟩
  rw [readValue, hcs, hquote]
  rfl

theorem readMembers_cons (fuel : Nat) (name value : String) {rest cs : List Char} (hrest : skip rest = ',' :: cs) :
    readMembers (fuel + 2) (written name value rest) =
      (textMember name value rest :: (readMembers (fuel + 1) cs).1, (readMembers (fuel + 1) cs).2) := by
  obtain ⟨htitle, hvalue⟩ := readMember_written fuel name value rest
  rw [readMembers, htitle]
  simp only [hvalue, hrest]

theorem readMembers_last (fuel : Nat) (name value : String) {rest cs : List Char} (hrest : skip rest = '\x7d' :: cs) :
    readMembers (fuel + 2) (written name value rest) = ([textMember name value rest], some cs) := by
  obtain ⟨htitle, hvalue⟩ := readMember_written fuel name value rest
  rw [readMembers, htitle]
  simp only [hvalue, hrest]

end Draft
end Json

namespace Outside.Marker

open Json Json.Draft

def nodeLine (m : Marker) : List Char := '\n' :: ' ' :: ' ' :: written "node_id" m.node.text ['\n', '\x7d']

theorem chars_eq (m : Marker) :
    m.chars = '\x7b' :: '\n' :: ' ' :: ' ' :: written "story_id" m.story.text (',' :: m.nodeLine) := by
  have hfirst : "\x7b\n  \"story_id\": ".toList =
      '\x7b' :: '\n' :: ' ' :: ' ' :: (Body.write "story_id".toList ++ [':', ' ']) := by decide +kernel
  have hsecond : ",\n  \"node_id\": ".toList =
      ',' :: '\n' :: ' ' :: ' ' :: (Body.write "node_id".toList ++ [':', ' ']) := by decide +kernel
  have hend : "\n\x7d".toList = ['\n', '\x7d'] := by decide +kernel
  unfold chars
  rw [hfirst, hsecond, hend]
  simp only [nodeLine, written, List.append_assoc, List.cons_append, List.nil_append]

def members (m : Marker) : List (Title × Placed) :=
  [textMember "story_id" m.story.text (',' :: m.nodeLine), textMember "node_id" m.node.text ['\n', '\x7d']]

theorem readMembers_chars (m : Marker) (fuel : Nat) :
    readMembers (fuel + 3) (written "story_id" m.story.text (',' :: m.nodeLine)) = (m.members, some []) := by
  have hnode : readMembers (fuel + 2) (written "node_id" m.node.text ['\n', '\x7d']) =
      ([textMember "node_id" m.node.text ['\n', '\x7d']], some []) := readMembers_last fuel _ _ rfl
  have hline : readMembers (fuel + 2) m.nodeLine = ([textMember "node_id" m.node.text ['\n', '\x7d']], some []) := by
    rw [← hnode]
    rfl
  have hstory := readMembers_cons (fuel + 1) "story_id" m.story.text (skip_of_head rfl m.nodeLine)
  rw [hstory, hline]
  rfl

theorem ofText_members (m : Marker) : ∃ spot, Draft.ofText m.text = ((object m.members true, spot), true) := by
  have hchars : m.text.toList = m.chars := String.toList_ofList
  have hskip : skip ('\n' :: ' ' :: ' ' :: written "story_id" m.story.text (',' :: m.nodeLine)) =
      written "story_id" m.story.text (',' :: m.nodeLine) := rfl
  -- more than fuel enough for the brace and both members
  obtain ⟨fuel, hfuel⟩ : ∃ fuel, 2 * m.chars.length + 2 = fuel + 4 := by
    rw [chars_eq, List.length_cons]
    exact ⟨_, rfl⟩
  have hvalue : readValue (fuel + 4) m.chars = (object m.members true, some []) := by
    rw [chars_eq, readValue_object (fuel + 3) hskip, readMembers_chars]
    rfl
  have hstart : skip m.chars = m.chars := by
    rw [chars_eq]
    exact skip_of_head rfl _
  rw [Draft.ofText, hchars, hstart, hfuel, hvalue]
  exact ⟨m.chars, rfl⟩

/-- **A marker that was written reads back as it was**, with any names. -/
theorem ofText_text (m : Marker) : ofText m.text = .ok m := by
  obtain ⟨spot, hread⟩ := ofText_members m
  rw [ofText, readWhole, hread]
  rfl

end Outside.Marker
end Gamebook
