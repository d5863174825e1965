/-! White space and the cuts made at it: trimming, words, and lines. Trimming a second time changes
nothing, and a text is blank exactly when trimming leaves nothing of it. -/
namespace Gamebook.Text

/-- The characters with the Unicode property White_Space. -/
def isBlank (c : Char) : Bool :=
  let n := c.toNat
  (0x9 ≤ n && n ≤ 0xD) || n == 0x20 || n == 0x85 || n == 0xA0 || n == 0x1680 ||
    (0x2000 ≤ n && n ≤ 0x200A) || n == 0x2028 || n == 0x2029 || n == 0x202F || n == 0x205F ||
    n == 0x3000

def trimStart (cs : List Char) : List Char := cs.dropWhile isBlank

def trimEnd : List Char → List Char
  | [] => []
  | c :: cs =>
    match trimEnd cs with
    | [] => if isBlank c then [] else [c]
    | d :: ds => c :: d :: ds

def trimChars (cs : List Char) : List Char := trimEnd (trimStart cs)

def trim (s : String) : String := String.ofList (trimChars s.toList)

def blank (s : String) : Bool := s.toList.all isBlank

/-- The text without white space at its ends, unless nothing is left. -/
def trimmed? (s : String) : Option String := if blank s then none else some (trim s)

@[simp] theorem toList_trim (s : String) : (trim s).toList = trimChars s.toList := by simp [trim]

theorem trimEnd_eq_nil_iff (cs : List Char) : trimEnd cs = [] ↔ cs.all isBlank = true := by
  induction cs with
  | nil => simp [trimEnd]
  | cons c cs ih =>
    simp only [trimEnd, List.all_cons, Bool.and_eq_true]
    cases h : trimEnd cs with
    | nil => simp [ih.1 h]
    | cons d ds =>
      have : ¬ cs.all isBlank = true := fun ha => by simp [ih.2 ha] at h
      simp [this]

theorem trimStart_eq_nil_iff (cs : List Char) : trimStart cs = [] ↔ cs.all isBlank = true := by
  induction cs with
  | nil => simp [trimStart]
  | cons c cs ih =>
    simp only [trimStart, List.dropWhile, List.all_cons, Bool.and_eq_true] at ih ⊢
    split <;> simp_all

theorem trimEnd_trimEnd (cs : List Char) : trimEnd (trimEnd cs) = trimEnd cs := by
  induction cs with
  | nil => rfl
  | cons c cs ih =>
    simp only [trimEnd]
    cases h : trimEnd cs with
    | nil => by_cases hc : isBlank c <;> simp [hc, trimEnd]
    | cons d ds =>
      rw [h] at ih
      simp only
      rw [trimEnd, ih]

theorem trimStart_of_head {c : Char} {cs : List Char} (h : isBlank c = false) :
    trimStart (c :: cs) = c :: cs := by simp [trimStart, List.dropWhile, h]

theorem trimStart_head {c : Char} {cs ds : List Char} (h : trimStart cs = c :: ds) :
    isBlank c = false := by
  induction cs with
  | nil => simp [trimStart] at h
  | cons d rest ih =>
    simp only [trimStart, List.dropWhile] at h ih
    split at h
    · exact ih h
    · simp_all

theorem trimChars_trimChars (cs : List Char) : trimChars (trimChars cs) = trimChars cs := by
  unfold trimChars
  cases h : trimStart cs with
  | nil => rfl
  | cons c ds =>
    have hc := trimStart_head h
    simp only [trimEnd]
    cases hd : trimEnd ds with
    | nil => simp [hc, trimStart, trimEnd]
    | cons e es =>
      simp only
      rw [trimStart_of_head hc]
      have := trimEnd_trimEnd ds
      rw [hd] at this
      rw [trimEnd, this]

@[simp] theorem trim_trim (s : String) : trim (trim s) = trim s := by
  simp [trim, trimChars_trimChars]

theorem trimChars_eq_nil_iff (cs : List Char) : trimChars cs = [] ↔ cs.all isBlank = true := by
  rw [trimChars, trimEnd_eq_nil_iff, ← trimStart_eq_nil_iff cs]
  cases h : trimStart cs with
  | nil => simp
  | cons c ds => simp [trimStart_head h]

theorem trim_eq_empty_iff (s : String) : trim s = "" ↔ blank s = true := by
  rw [← String.toList_inj, toList_trim, blank]
  exact trimChars_eq_nil_iff _

/-- The stretches between the characters that `p` picks, empty ones included. -/
def stretches (p : Char → Bool) : List Char → List (List Char)
  | [] => [[]]
  | c :: cs =>
    if p c then [] :: stretches p cs
    else
      match stretches p cs with
      | [] => [[c]]
      | s :: ss => (c :: s) :: ss

def words (cs : List Char) : List (List Char) := (stretches isBlank cs).filter (· ≠ [])

/-- The text cut at every line feed. A carriage return before it is no part of the line, and
nothing follows the last line feed. -/
def lines : List Char → List (List Char)
  | [] => []
  | '\r' :: '\n' :: rest => [] :: lines rest
  | '\n' :: rest => [] :: lines rest
  | c :: rest =>
    match lines rest with
    | [] => [[c]]
    | l :: ls => (c :: l) :: ls

end Gamebook.Text
