import SyntaxExplorer.Proofs.Token.Layout

namespace SyntaxExplorer

namespace Location

/-- The one place is read before the other. -/
def Precedes (one two : Location) : Prop :=
  one.line < two.line ∨ one.line = two.line ∧ one.column < two.column

instance (one two : Location) : Decidable (one.Precedes two) :=
  inferInstanceAs (Decidable (_ ∨ _))

variable {one two three place : Location} {c : Char} {text : List Char}

theorem not_precedes_self (place : Location) : ¬ place.Precedes place := by
  simp only [Precedes]
  omega

theorem Precedes.trans (first : one.Precedes two) (second : two.Precedes three) :
    one.Precedes three := by
  simp only [Precedes] at first second ⊢
  omega

theorem Precedes.trans_not (first : one.Precedes two) (second : ¬ three.Precedes two) :
    one.Precedes three := by
  simp only [Precedes] at first second ⊢
  omega

theorem precedes_of_not (first : ¬ two.Precedes one) (second : two.Precedes three) :
    one.Precedes three := by
  simp only [Precedes] at first second ⊢
  omega

theorem precedes_next (place : Location) (c : Char) : place.Precedes (place.next c) := by
  simp only [Precedes, next]
  split
  · exact .inl (Nat.lt_succ_self _)
  · exact .inr ⟨rfl, Nat.lt_succ_self _⟩

/-- No text leads back. -/
theorem not_after_precedes (place : Location) (text : List Char) :
    ¬ (place.after text).Precedes place := by
  induction text generalizing place with
  | nil => exact not_precedes_self place
  | cons c text ih =>
    intro back
    exact ih (place.next c) (back.trans (precedes_next place c))

theorem precedes_after_cons (place : Location) (c : Char) (text : List Char) :
    place.Precedes (place.after (c :: text)) :=
  (precedes_next place c).trans_not (not_after_precedes _ text)

theorem behind_append (before more : List Char) :
    behind (before ++ more) = (behind before).after more := by
  rw [← after_start, ← after_start, after_append]

end Location

namespace Token

/-- The place behind the token. -/
def stop (token : Token) : Location :=
  token.location.after token.text.toList

/-- The place lies on the token. -/
def Covers (token : Token) (place : Location) : Prop :=
  ¬ place.Precedes token.location ∧ place.Precedes token.stop

instance (token : Token) (place : Location) : Decidable (token.Covers place) :=
  inferInstanceAs (Decidable (_ ∧ _))

/-- A token covers its characters. -/
theorem covers_after {kind : TokenKind} {place : Location} {front back : List Char} {c : Char} :
    Covers ⟨⟨kind, String.ofList (front ++ c :: back)⟩, place⟩ (place.after front) := by
  refine ⟨Location.not_after_precedes _ _, ?_⟩
  rw [stop, String.toList_ofList, Location.after_append]
  exact Location.precedes_after_cons ..

end Token

namespace IsLayout

variable {before text : List Char} {tokens : List Token} {token : Token}

/-- The tokens of a text stand in it. -/
theorem not_location_precedes (layout : IsLayout before text tokens) (member : token ∈ tokens) :
    ¬ token.location.Precedes (.behind before) := by
  induction layout with
  | finish => cases member
  | @token before gap kind text rest tokens _ _ _ ih =>
    rcases List.mem_cons.mp member with rfl | member
    · rw [Location.behind_append]
      exact Location.not_after_precedes _ _
    · intro early
      have there := ih member
      rw [List.append_assoc, Location.behind_append] at there
      exact there (early.trans_not (Location.not_after_precedes _ _))

/-- No token ends where it began. -/
theorem precedes_stop (layout : IsLayout before text tokens) (member : token ∈ tokens) :
    (Location.behind before).Precedes token.stop := by
  have filled : token.location.Precedes token.stop := by
    induction layout with
    | finish => cases member
    | token _ lexeme _ ih =>
      rcases List.mem_cons.mp member with rfl | member
      · obtain ⟨c, more, rfl, -⟩ := lexeme.shape.begins
        rw [Token.stop, String.toList_ofList]
        exact Location.precedes_after_cons _ _ _
      · exact ih member
  exact Location.precedes_of_not (layout.not_location_precedes member) filled

/-- Each token ends before the next one begins. -/
theorem pairwise (layout : IsLayout before text tokens) :
    tokens.Pairwise fun one two => ¬ two.location.Precedes one.stop := by
  induction layout with
  | finish => exact .nil
  | @token before gap kind text rest tokens _ _ others ih =>
    refine .cons ?_ ih
    intro later member
    rw [Token.stop, String.toList_ofList, ← Location.behind_append]
    exact others.not_location_precedes member

end IsLayout

/-- Where each token ends before the next one begins, no place is covered twice. -/
theorem Token.covers_unique {tokens : List Token} {one two : Token} {place : Location}
    (ordered : tokens.Pairwise fun one two => ¬ two.location.Precedes one.stop)
    (memberOne : one ∈ tokens) (memberTwo : two ∈ tokens) (coversOne : one.Covers place)
    (coversTwo : two.Covers place) : one = two := by
  have meet {one two : Token} (coversOne : one.Covers place) (coversTwo : two.Covers place) :
      two.location.Precedes one.stop :=
    Location.precedes_of_not coversTwo.1 coversOne.2
  induction ordered with
  | nil => cases memberOne
  | cons first _ ih =>
    rcases List.mem_cons.mp memberOne with rfl | laterOne
    · rcases List.mem_cons.mp memberTwo with rfl | laterTwo
      · rfl
      · exact absurd (meet coversOne coversTwo) (first _ laterTwo)
    · rcases List.mem_cons.mp memberTwo with rfl | laterTwo
      · exact absurd (meet coversTwo coversOne) (first _ laterOne)
      · exact ih laterOne laterTwo

end SyntaxExplorer
