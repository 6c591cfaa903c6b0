/-!
# Searching a stream chunk by chunk

A pattern is looked for in a text that arrives in chunks. It is enough to carry the end of what
has arrived into the next chunk, as long as the carried part is at most one item shorter than the
pattern.
-/
namespace SimpleVM.Text

variable {α : Type}

/-- The last `n` items, or all of them. -/
def lastItems (n : Nat) (text : List α) : List α := text.drop (text.length - n)

/-- The part that is carried is the part that would be carried out of the whole text. -/
theorem lastItems_append (n : Nat) (text chunk : List α) :
    lastItems n (lastItems n text ++ chunk) = lastItems n (text ++ chunk) := by
  unfold lastItems
  simp only [List.length_append, List.length_drop, List.drop_append]
  rw [List.drop_drop]
  by_cases long : n ≤ chunk.length
  · have gone (k : Nat) (all : text.length ≤ k) : text.drop k = [] := List.drop_eq_nil_of_le all
    rw [gone _ (by omega), gone _ (by omega)]
    congr 2
    omega
  · congr 2 <;> omega

/-- **Carrying is enough.** What occurs once a chunk has arrived occurred before, or occurs in the
carried part and the chunk. -/
theorem infix_append_iff {pattern text chunk : List α} {n : Nat}
    (short : pattern.length ≤ n + 1) :
    pattern <:+: text ++ chunk ↔ pattern <:+: text ∨ pattern <:+: lastItems n text ++ chunk := by
  constructor
  · rintro ⟨before, after, whole⟩
    by_cases early : before.length + pattern.length ≤ text.length
    · -- The occurrence ends before the chunk begins.
      refine .inl ⟨before, text.drop (before.length + pattern.length), ?_⟩
      have cut := congrArg (List.take (before.length + pattern.length)) whole
      rw [List.take_append_of_le_length early,
        List.take_left' (List.length_append : (before ++ pattern).length = _)] at cut
      rw [cut, List.take_append_drop]
    · -- It ends in the chunk, so it begins in the carried part or after it.
      refine .inr ⟨before.drop (text.length - n), after, ?_⟩
      have cut := congrArg (List.drop (text.length - n)) whole
      rw [List.append_assoc, List.drop_append_of_le_length (by omega),
        List.drop_append_of_le_length (by omega), ← List.append_assoc] at cut
      exact cut
  · rintro (before | carried)
    · exact before.trans (List.prefix_append text chunk).isInfix
    · refine carried.trans (List.IsSuffix.isInfix ?_)
      refine ⟨text.take (text.length - n), ?_⟩
      unfold lastItems
      rw [← List.append_assoc, List.take_append_drop]

variable [DecidableEq α]

/-- The pattern begins somewhere in the text. -/
def occurs (pattern : List α) : List α → Bool
  | [] => pattern.isEmpty
  | c :: rest => pattern.isPrefixOf (c :: rest) || occurs pattern rest

@[simp] theorem occurs_iff {pattern text : List α} :
    occurs pattern text = true ↔ pattern <:+: text := by
  induction text with
  | nil => simp [occurs]
  | cons c rest ih => simp [occurs, ih, List.infix_cons_iff]

end SimpleVM.Text
