import SyntaxExplorer.Proofs.Grammar.Beginnings

namespace SyntaxExplorer.Grammar

open Rule

/-- Where the scan stands: in no parameter list, behind a type, behind a type and an identifier, or in
a list with so many parentheses opened inside. -/
inductive Skim
  | outside
  | behindType
  | behindName
  | inside (opened : Nat)
  deriving DecidableEq

namespace Skim

/-- The place behind a lexeme that goes on with nothing before it. -/
def begin (lexeme : Lexeme) : Skim :=
  if isKeywordIn typeNames lexeme then behindType else outside

/-- The place behind a parenthesis that closes one of those inside, or the list itself. -/
def close : Nat → Skim
  | 0 => outside
  | opened + 1 => inside opened

def next : Skim → Lexeme → Skim
  | outside, lexeme => begin lexeme
  | behindType, lexeme => if lexeme.kind = .identifier then behindName else begin lexeme
  | behindName, lexeme => if lexeme = mark "(" then inside 0 else begin lexeme
  | inside opened, lexeme =>
    if lexeme = mark "(" then inside (opened + 1)
    else if lexeme = mark ")" then close opened
    else inside opened

/-- The lexeme opens a parameter list. -/
def opens (skim : Skim) (lexeme : Lexeme) : Bool :=
  skim = behindName && lexeme = mark "("

/-- The lexeme is neither a comment nor part of a parameter list. -/
def keeps (skim : Skim) (lexeme : Lexeme) : Bool :=
  match skim with
  | inside _ => false
  | _ => lexeme.kind ≠ .comment && !skim.opens lexeme

def after (skim : Skim) (word : List Lexeme) : Skim :=
  word.foldl next skim

/-- The lexemes that are left. -/
def left : Skim → List Lexeme → List Lexeme
  | _, [] => []
  | skim, lexeme :: word =>
    if skim.keeps lexeme then lexeme :: left (skim.next lexeme) word
    else left (skim.next lexeme) word

/-- The number of parameter lists that are left out. -/
def lists : Skim → List Lexeme → Nat
  | _, [] => 0
  | skim, lexeme :: word => (if skim.opens lexeme then 1 else 0) + lists (skim.next lexeme) word

variable (skim : Skim) (before behind : List Lexeme)

theorem after_append : skim.after (before ++ behind) = (skim.after before).after behind :=
  List.foldl_append

theorem left_append :
    skim.left (before ++ behind) = skim.left before ++ (skim.after before).left behind := by
  induction before generalizing skim with
  | nil => rfl
  | cons lexeme before ih =>
    have later := ih (skim.next lexeme)
    rw [List.cons_append, left, left]
    split
    · rw [later]
      rfl
    · exact later

theorem lists_append :
    skim.lists (before ++ behind) = skim.lists before + (skim.after before).lists behind := by
  induction before generalizing skim with
  | nil => simp [lists, after]
  | cons lexeme before ih =>
    have later := ih (skim.next lexeme)
    rw [List.cons_append, lists, lists, later, Nat.add_assoc]
    rfl

end Skim

/-- From the one place to the other, the scan of the word leaves those lexemes and so many parameter
lists out. -/
structure Skims (start : Skim) (word left : List Lexeme) (lists : Nat) (stop : Skim) : Prop where
  after : start.after word = stop
  left : start.left word = left
  lists : start.lists word = lists

namespace Skims

variable {start middle stop : Skim} {word left : List Lexeme} {lists : Nat} {lexeme : Lexeme}

theorem nil : Skims start [] [] 0 start :=
  ⟨rfl, rfl, rfl⟩

theorem append {words lefts : List Lexeme} {more : Nat} (first : Skims start word left lists middle)
    (second : Skims middle words lefts more stop) :
    Skims start (word ++ words) (left ++ lefts) (lists + more) stop where
  after := by rw [Skim.after_append, first.after, second.after]
  left := by rw [Skim.left_append, first.after, first.left, second.left]
  lists := by rw [Skim.lists_append, first.after, first.lists, second.lists]

theorem kept (keeps : start.keeps lexeme = true) (later : Skims (start.next lexeme) word left lists stop) :
    Skims start (lexeme :: word) (lexeme :: left) lists stop := by
  have opens : start.opens lexeme = false := by
    cases start <;> simp_all [Skim.keeps, Skim.opens]
  constructor
  · exact later.after
  · rw [Skim.left, if_pos keeps, later.left]
  · rw [Skim.lists, opens, if_neg Bool.false_ne_true, later.lists, Nat.zero_add]

theorem dropped (keeps : start.keeps lexeme = false) (opens : start.opens lexeme = false)
    (later : Skims (start.next lexeme) word left lists stop) :
    Skims start (lexeme :: word) left lists stop := by
  constructor
  · exact later.after
  · rw [Skim.left, keeps, if_neg Bool.false_ne_true, later.left]
  · rw [Skim.lists, opens, if_neg Bool.false_ne_true, later.lists, Nat.zero_add]

theorem opening (later : Skims (.inside 0) word left lists stop) :
    Skims .behindName (mark "(" :: word) left (lists + 1) stop where
  after := later.after
  left := later.left
  lists := by rw [← later.lists, Nat.add_comm]; rfl

/-- Matched parentheses inside a list leave the scan where it is, and nothing of them is left. -/
theorem balanced (matched : Balanced word) (opened : Nat) :
    Skims (.inside opened) word [] 0 (.inside opened) := by
  induction matched generalizing opened with
  | nil => exact .nil
  | @other lexeme word notOpening notClosing _ ih =>
    have next : (Skim.inside opened).next lexeme = .inside opened := by
      rw [Skim.next, if_neg notOpening, if_neg notClosing]
    exact .dropped rfl rfl (by rw [next]; exact ih opened)
  | @nested inner word _ _ ihInside ihLater =>
    have closing : Skims (.inside (opened + 1)) (mark ")" :: word) [] 0 (.inside opened) :=
      .dropped rfl rfl (ihLater opened)
    have opening : (Skim.inside opened).next (mark "(") = .inside (opened + 1) := rfl
    exact .dropped rfl rfl (by rw [opening]; exact (ihInside (opened + 1)).append closing)

/-- A parameter list is left out with both of its parentheses. -/
theorem parameters (matched : Balanced word) :
    Skims .behindName (mark "(" :: word ++ [mark ")"]) [] 1 .outside := by
  have closing : Skims (.inside 0) [mark ")"] [] 0 .outside := .dropped rfl rfl .nil
  exact ((balanced matched 0).append closing).opening

theorem comments (skipped : AllComments word) : Skims .outside word [] 0 .outside := by
  induction word with
  | nil => exact .nil
  | cons lexeme word ih =>
    obtain ⟨comment, others⟩ := List.forall_mem_cons.mp skipped
    have next : Skim.outside.next lexeme = .outside := by
      simp [Skim.next, Skim.begin, isKeywordIn, comment]
    exact .dropped (by simp [Skim.keeps, comment]) rfl (by rw [next]; exact ih others)

/-- Without comments and types there is nothing to leave out. -/
theorem plain (others : ∀ lexeme ∈ word, lexeme.kind ≠ .comment ∧ isKeywordIn typeNames lexeme = false) :
    Skims .outside word word 0 .outside := by
  induction word with
  | nil => exact .nil
  | cons lexeme word ih =>
    obtain ⟨⟨solid, untyped⟩, later⟩ := List.forall_mem_cons.mp others
    have next : Skim.outside.next lexeme = .outside := by
      rw [Skim.next, Skim.begin, untyped, if_neg Bool.false_ne_true]
    exact .kept (by simp [Skim.keeps, Skim.opens, solid]) (by rw [next]; exact ih later)

/-- A type and a name are left. What stands behind them decides about a parameter list. -/
theorem typed {type name : String} (known : type ∈ typeNames)
    (later : Skims .behindName word left lists stop) :
    Skims .outside (keyword type :: ⟨.identifier, name⟩ :: word)
      (keyword type :: ⟨.identifier, name⟩ :: left) lists stop := by
  have next : Skim.outside.next (keyword type) = .behindType := by
    rw [Skim.next, Skim.begin, if_pos (isKeywordIn_keyword.mpr known)]
  exact .kept rfl (by rw [next]; exact .kept rfl later)

end Skims

end SyntaxExplorer.Grammar
