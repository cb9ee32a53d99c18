/-
Search conditions of SQL.

How a shell reads a search condition, said without reference to how one is written.  The
text is cut into tokens: literals, parentheses, and words between blanks.  The grammar on
tokens is that of SQL: operands are joined by `and`, conjunctions by `or`, and an operand
is a comparison of a column with a literal or a condition in parentheses.  So `and` binds
tighter than `or`, and parentheses leave no trace but the structure they give.

A grammar alone could let a text be read in two ways.  `condition?` is a reader that goes
through the tokens once, with a stack of the open parentheses; `ReadsAs.condition?_eq`
says that it finds whatever the grammar admits, and `ReadsAs.unique` follows.
-/
import RowShell.Condition
import RowShell.Proofs.Sql.Piece

namespace RowShell.Sql

/-! ### Tokens -/

inductive Token where
  | opening
  | closing
  | word (cs : List Char)
  | quoted (content : List Char)
  deriving DecidableEq

/-- The characters that end a word: white space, parentheses and the quote. -/
def delimiters : List Char := [' ', '\t', '\n', '\r', '\x0c', '(', ')', '\'']

def isWordChar (c : Char) : Bool := !delimiters.contains c

/-- A class of characters that has none of some characters is outside of them. -/
theorem not_contains_of {p : Char → Bool} {cs : List Char} (hp : cs.all (fun d => !p d) = true)
    {c : Char} (hc : p c = true) : (!cs.contains c) = true := by
  have hmem : c ∉ cs := by
    intro hd
    have h := List.all_eq_true.mp hp c hd
    rw [hc] at h
    cases h
  simpa using hmem

/-- A word as a token, if it has characters. -/
def Token.ofWord (cs : List Char) : List Token := if cs = [] then [] else [.word cs]

/-- The token of a character that belongs to no word; white space has none. -/
def Token.ofMark (c : Char) : List Token :=
  if c = '(' then [.opening] else if c = ')' then [.closing] else []

/-- The tokens of pieces after the characters `held` of a word. -/
def tokensFrom : List Char → List Piece → List Token
  | held, [] => Token.ofWord held
  | held, .quoted content :: rest => Token.ofWord held ++ .quoted content :: tokensFrom [] rest
  | held, .char c :: rest =>
    if isWordChar c then tokensFrom (held ++ [c]) rest
    else Token.ofWord held ++ Token.ofMark c ++ tokensFrom [] rest

/-- The tokens of a text, unless a literal is left open. -/
def tokens? (text : List Char) : Option (List Token) := (pieces? text).map (tokensFrom [])

/-! ### The grammar -/

/-- A character of a plain name: a letter, a digit or an underscore.  Beyond ASCII a shell
takes every character for a letter. -/
def isNameChar (c : Char) : Bool := c.isAlphanum || c == '_' || 0x80 ≤ c.toNat

/-- A name that needs no quotes. -/
def IsName (s : String) : Prop := s.toList ≠ [] ∧ s.toList.all isNameChar = true

instance (s : String) : Decidable (IsName s) := inferInstanceAs (Decidable (_ ∧ _))

/-- The signs of comparisons. -/
def comparisonSigns : List String := ["=", "==", "!=", "<>", "<", "<=", ">", ">="]

/-- The text of a literal. -/
def Token.literal? : Token → Option String
  | .word cs => some (String.ofList cs)
  | .quoted content => some (Literal.quote (String.ofList content))
  | _ => none

/-- A comparison of a column with a literal. -/
def comparison? (column sign : List Char) (literal : Token) : Option Condition :=
  if IsName (String.ofList column) ∧ String.ofList sign ∈ comparisonSigns then
    literal.literal?.map (.compare (String.ofList column) (String.ofList sign) ·)
  else none

def andWord : List Char := ['a', 'n', 'd']

def orWord : List Char := ['o', 'r']

/-- Members joined to one condition; a single member is left as it is. -/
def joined (join : List Condition → Condition) : List Condition → Condition
  | [member] => member
  | members => join members

@[simp] theorem joined_singleton (join : List Condition → Condition) (member : Condition) :
    joined join [member] = member := rfl

inductive Phrase where
  /-- What `and` joins. -/
  | operand
  /-- Operands joined by `and`. -/
  | conjunction
  /-- Conjunctions joined by `or`. -/
  | disjunction
  | condition
  deriving DecidableEq

/-- The tokens of a phrase and the conditions it lists. -/
inductive Reads : Phrase → List Token → List Condition → Prop
  | comparison {column sign : List Char} {literal : Token} {t : Condition}
      (h : comparison? column sign literal = some t) :
      Reads .operand [.opening, .word column, .word sign, literal, .closing] [t]
  | group {ts : List Token} {t : Condition} (h : Reads .condition ts [t]) :
      Reads .operand (.opening :: ts ++ [.closing]) [t]
  | operand {ts : List Token} {t : Condition} (h : Reads .operand ts [t]) :
      Reads .conjunction ts [t]
  | and {ts us : List Token} {t : Condition} {parts : List Condition}
      (h : Reads .operand ts [t]) (hrest : Reads .conjunction us parts) :
      Reads .conjunction (ts ++ .word andWord :: us) (t :: parts)
  | conjunction {ts : List Token} {parts : List Condition} (h : Reads .conjunction ts parts) :
      Reads .disjunction ts [joined .all parts]
  | or {ts us : List Token} {parts branches : List Condition} (h : Reads .conjunction ts parts)
      (hrest : Reads .disjunction us branches) :
      Reads .disjunction (ts ++ .word orWord :: us) (joined .all parts :: branches)
  | condition {ts : List Token} {branches : List Condition} (h : Reads .disjunction ts branches) :
      Reads .condition ts [joined .any branches]

/-- A text that is read, as a whole, as a condition. -/
def ReadsAs (text : String) (t : Condition) : Prop :=
  ∃ ts, tokens? text.toList = some ts ∧ Reads .condition ts [t]

/-! ### A reader -/

/-- What was read since an opening parenthesis: the finished branches of a disjunction,
and the operands of the conjunction in progress. -/
structure Frame where
  branches : List Condition
  parts : List Condition

namespace Frame

def empty : Frame := ⟨[], []⟩

/-- After further operands. -/
def add (frame : Frame) (ts : List Condition) : Frame := ⟨frame.branches, frame.parts ++ ts⟩

/-- The branches with the one in progress. -/
def closed (frame : Frame) : List Condition := frame.branches ++ [joined .all frame.parts]

/-- After `or`. -/
def next (frame : Frame) : Frame := ⟨frame.closed, []⟩

def condition (frame : Frame) : Condition := joined .any frame.closed

end Frame

mutual

/-- Reads on where an operand has to come; `outer` are the frames around this one. -/
def readOperand (outer : List Frame) (frame : Frame) : List Token → Option Condition
  | .opening :: .word column :: .word sign :: literal :: .closing :: rest =>
    (comparison? column sign literal).bind fun t => readOperator outer (frame.add [t]) rest
  | .opening :: rest => readOperand (frame :: outer) .empty rest
  | _ => none

/-- Reads on after an operand. -/
def readOperator (outer : List Frame) (frame : Frame) : List Token → Option Condition
  | [] => if outer.isEmpty then some frame.condition else none
  | .closing :: rest =>
    match outer with
    | [] => none
    | enclosing :: outer => readOperator outer (enclosing.add [frame.condition]) rest
  | .word cs :: rest =>
    if cs = andWord then readOperand outer frame rest
    else if cs = orWord then readOperand outer frame.next rest
    else none
  | _ => none

end

/-- The condition that a text is read as. -/
def condition? (text : String) : Option Condition :=
  (tokens? text.toList).bind (readOperand [] .empty)

/-! ### The reader finds what the grammar admits

A phrase is read where an operand has to come, inside any parentheses and before any
further tokens, and leaves its conditions in the frame.  That is the statement by
phrases; it is proved along the derivation.
-/

/-- Every phrase begins with a parenthesis. -/
theorem Reads.opening {phrase : Phrase} {ts : List Token} {cs : List Condition}
    (h : Reads phrase ts cs) : ∃ us, ts = .opening :: us := by
  induction h with
  | comparison _ => exact ⟨_, rfl⟩
  | group _ _ => exact ⟨_, rfl⟩
  | operand _ ih => exact ih
  | and _ _ ih _ =>
      obtain ⟨us, rfl⟩ := ih
      exact ⟨_, rfl⟩
  | conjunction _ ih => exact ih
  | or _ _ ih _ =>
      obtain ⟨us, rfl⟩ := ih
      exact ⟨_, rfl⟩
  | condition _ ih => exact ih

/-- What the reader makes of a phrase. -/
def Found (ts : List Token) (cs : List Condition) : Phrase → Prop
  | .operand | .conjunction => ∀ outer frame rest,
      readOperand outer frame (ts ++ rest) = readOperator outer (frame.add cs) rest
  | .disjunction => ∀ branches, ∃ frame : Frame, frame.closed = branches ++ cs ∧
      ∀ outer rest, readOperand outer ⟨branches, []⟩ (ts ++ rest) = readOperator outer frame rest
  | .condition => ∃ frame : Frame, [frame.condition] = cs ∧
      ∀ outer rest, readOperand outer .empty (ts ++ rest) = readOperator outer frame rest

theorem readOperand_comparison {column sign : List Char} {literal : Token} {t : Condition}
    (h : comparison? column sign literal = some t) (outer : List Frame) (frame : Frame)
    (rest : List Token) :
    readOperand outer frame (.opening :: .word column :: .word sign :: literal :: .closing :: rest) =
      readOperator outer (frame.add [t]) rest := by
  rw [readOperand, h, Option.bind_some]

/-- Two parentheses in a row open a group. -/
theorem readOperand_group (outer : List Frame) (frame : Frame) (rest : List Token) :
    readOperand outer frame (.opening :: .opening :: rest) =
      readOperand (frame :: outer) .empty (.opening :: rest) := by
  rw [readOperand]
  simp

theorem readOperator_and (outer : List Frame) (frame : Frame) (rest : List Token) :
    readOperator outer frame (.word andWord :: rest) = readOperand outer frame rest := by
  rw [readOperator, if_pos rfl]

theorem readOperator_or (outer : List Frame) (frame : Frame) (rest : List Token) :
    readOperator outer frame (.word orWord :: rest) = readOperand outer frame.next rest := by
  rw [readOperator, if_neg (by decide), if_pos rfl]

theorem Reads.found {phrase : Phrase} {ts : List Token} {cs : List Condition}
    (h : Reads phrase ts cs) : Found ts cs phrase := by
  induction h with
  | comparison h =>
      intro outer frame rest
      exact readOperand_comparison h outer frame rest
  | @group ts t h ih =>
      intro outer frame rest
      obtain ⟨inner, hinner, hread⟩ := ih
      obtain ⟨us, rfl⟩ := h.opening
      have ht : inner.condition = t := by simpa using hinner
      calc readOperand outer frame (.opening :: (.opening :: us) ++ [.closing] ++ rest)
          = readOperand (frame :: outer) .empty ((.opening :: us) ++ (.closing :: rest)) := by
            rw [List.append_assoc]
            exact readOperand_group outer frame _
        _ = readOperator (frame :: outer) inner (.closing :: rest) := hread _ _
        _ = readOperator outer (frame.add [t]) rest := by rw [readOperator, ht]
  | operand _ ih => exact ih
  | @and ts us t parts _ _ ih ihrest =>
      intro outer frame rest
      rw [List.append_assoc, ih, List.cons_append, readOperator_and, ihrest]
      simp [Frame.add]
  | @conjunction ts parts _ ih =>
      intro branches
      refine ⟨⟨branches, parts⟩, rfl, ?_⟩
      intro outer rest
      exact ih outer ⟨branches, []⟩ rest
  | @or ts us parts branches' _ _ ih ihrest =>
      intro branches
      obtain ⟨frame, hclosed, hread⟩ := ihrest (branches ++ [joined .all parts])
      refine ⟨frame, by rw [hclosed]; simp, ?_⟩
      intro outer rest
      rw [List.append_assoc, ih, List.cons_append, readOperator_or]
      exact hread outer rest
  | @condition ts branches _ ih =>
      obtain ⟨frame, hclosed, hread⟩ := ih []
      refine ⟨frame, ?_, hread⟩
      rw [Frame.condition, hclosed, List.nil_append]

/-- **The reader finds the condition that the grammar admits.** -/
theorem ReadsAs.condition?_eq {text : String} {t : Condition} (h : ReadsAs text t) :
    condition? text = some t := by
  obtain ⟨ts, htokens, hreads⟩ := h
  obtain ⟨frame, hframe, hread⟩ := hreads.found
  have hend := hread [] []
  rw [List.append_nil] at hend
  rw [condition?, htokens, Option.bind_some, hend, readOperator]
  simpa using hframe

/-- **A text has one reading.** -/
theorem ReadsAs.unique {text : String} {t u : Condition} (ht : ReadsAs text t)
    (hu : ReadsAs text u) : t = u := by
  have h := ht.condition?_eq.symm.trans hu.condition?_eq
  exact Option.some.inj h

end RowShell.Sql
