/-!
# Texts without terminal control

A terminal takes some characters as orders: control characters, and sequences that an escape character
begins. What is left without them is what a reader sees.
-/

namespace ChainIndex.Text

/-- What the next character belongs to. -/
inductive TerminalState where
  | plain
  /-- An escape character is there. -/
  | escape
  /-- A sequence that a letter or a figure ends. -/
  | short
  /-- A sequence with arguments. -/
  | long
  /-- A string for the terminal; a bell ends some. -/
  | string (bell : Bool)
  deriving DecidableEq, Repr

namespace TerminalState

/-- A control character that moves on a page. -/
def isMove (c : Char) : Bool := c = '\t' || c = '\n' || c = '\x0c' || c = '\r'

def isControl (c : Char) : Bool := c.toNat < 32 || c.toNat = 127

/-- What follows an escape character, by its first character. -/
def afterEscape (c : Char) : TerminalState :=
  if c = '[' then .long
  else if c = ']' then .string true
  else if "PX^_".contains c then .string false
  else if c.toNat < 48 then .short
  else .plain

/-- What a character leads to, and whether it is seen. -/
def step (s : TerminalState) (c : Char) : TerminalState × Bool :=
  let n := c.toNat
  if n = 0x1B then (.escape, false)
  else if n = 0x18 ∨ n = 0x1A then (.plain, false)
  else if 128 ≤ n then (.plain, true)
  else
    match s with
    | .string bell => (if bell ∧ n = 7 then .plain else s, false)
    | .plain => (.plain, isMove c || !isControl c)
    | .escape => if isMove c then (.plain, true) else (if isControl c then s else afterEscape c, false)
    | .short => if isMove c then (.plain, true) else (if n < 48 ∨ n = 127 then s else .plain, false)
    | .long => if isMove c then (.plain, true) else (if n < 64 ∨ n = 127 then s else .plain, false)

end TerminalState

/-- The characters of a text that are seen. -/
def seen (s : TerminalState) : List Char → List Char
  | [] => []
  | c :: rest =>
    let (s, isSeen) := s.step c
    if isSeen then c :: seen s rest else seen s rest

/-- A text without control characters is seen as it is. -/
theorem seen_plain {cs : List Char} (h : ∀ c ∈ cs, TerminalState.isControl c = false) : seen .plain cs = cs := by
  induction cs with
  | nil => rfl
  | cons c rest ih =>
    have hc := h c List.mem_cons_self
    have hr := ih fun d hd => h d (List.mem_cons_of_mem _ hd)
    have : TerminalState.step .plain c = (.plain, true) := by
      simp only [TerminalState.isControl, Bool.or_eq_false_iff, decide_eq_false_iff_not] at hc
      have h1 : c.toNat ≠ 0x1B := by omega
      have h2 : ¬(c.toNat = 0x18 ∨ c.toNat = 0x1A) := by omega
      simp [TerminalState.step, h1, h2, TerminalState.isControl, hc]
    simp [seen, this, hr]

/-- The text that a reader sees. -/
def visible (text : String) : String := String.ofList (seen .plain text.toList)

end ChainIndex.Text
