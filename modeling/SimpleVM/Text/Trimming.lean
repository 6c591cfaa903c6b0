/-!
# Trimming

A list without what it has of one kind at its ends. What is put on at the ends and is of that kind
makes no difference.
-/
namespace SimpleVM.Text

variable {α : Type} {p q : α → Bool} {pad pad' text more : List α}

def trimEnd (p : α → Bool) (text : List α) : List α := (text.reverse.dropWhile p).reverse

def trim (p : α → Bool) (text : List α) : List α := trimEnd p (text.dropWhile p)

/-- Dropping from the front ends at something of another kind. -/
theorem dropWhile_append_of_exists (written : ∃ c ∈ text, p c = false) :
    (text ++ more).dropWhile p = text.dropWhile p ++ more := by
  induction text with
  | nil =>
    obtain ⟨c, member, -⟩ := written
    cases member
  | cons c text ih =>
    rw [List.cons_append, List.dropWhile_cons, List.dropWhile_cons]
    cases here : p c with
    | false => rfl
    | true =>
      apply ih
      obtain ⟨d, member, other⟩ := written
      rcases List.mem_cons.mp member with rfl | later
      · rw [here] at other
        cases other
      · exact ⟨d, later, other⟩

/-- And goes no further than it. -/
theorem dropWhile_append_cons {c : α} (other : p c = false) :
    (text ++ c :: more).dropWhile p = text.dropWhile p ++ c :: more := by
  induction text with
  | nil => simp [other]
  | cons d text ih =>
    rw [List.cons_append, List.dropWhile_cons, List.dropWhile_cons]
    cases p d with
    | false => rfl
    | true => exact ih

theorem trimEnd_append_cons {c : α} (other : p c = false) :
    trimEnd p (text ++ c :: more) = text ++ c :: trimEnd p more := by
  have reversed : (text ++ c :: more).reverse = more.reverse ++ c :: text.reverse := by simp
  unfold trimEnd
  rw [reversed, dropWhile_append_cons other]
  simp

theorem trimEnd_append (written : ∃ c ∈ more, p c = false) :
    trimEnd p (text ++ more) = text ++ trimEnd p more := by
  have reversed : ∃ c ∈ more.reverse, p c = false := by
    obtain ⟨c, member, other⟩ := written
    exact ⟨c, List.mem_reverse.mpr member, other⟩
  unfold trimEnd
  rw [List.reverse_append, dropWhile_append_of_exists reversed, List.reverse_append,
    List.reverse_reverse]

theorem exists_dropWhile (written : ∃ c ∈ text, p c = false) :
    ∃ c ∈ text.dropWhile p, p c = false := by
  obtain ⟨c, member, other⟩ := written
  have split := List.takeWhile_append_dropWhile (p := p) (l := text)
  rw [← split] at member
  rcases List.mem_append.mp member with front | back
  · have all := List.all_eq_true.mp (List.all_takeWhile (p := p) (l := text)) c front
    rw [all] at other
    cases other
  · exact ⟨c, back, other⟩

/-- What is put on in front makes no difference. -/
theorem trim_append_left (blank : ∀ c ∈ pad, p c = true) : trim p (pad ++ text) = trim p text := by
  unfold trim
  rw [List.dropWhile_append_of_pos blank]

theorem trim_append_right (blank : ∀ c ∈ pad, p c = true) (written : ∃ c ∈ text, p c = false) :
    trim p (text ++ pad) = trim p text := by
  unfold trim trimEnd
  rw [dropWhile_append_of_exists written, List.reverse_append, List.dropWhile_append_of_pos]
  intro c member
  exact blank c (List.mem_reverse.mp member)

theorem trim_dropWhile (text : List α) : trim p (text.dropWhile p) = trim p text := by
  have split := List.takeWhile_append_dropWhile (p := p) (l := text)
  have front : trim p (text.takeWhile p ++ text.dropWhile p) = trim p (text.dropWhile p) :=
    trim_append_left (List.all_eq_true.mp List.all_takeWhile)
  rw [split] at front
  exact front.symm

theorem trimEnd_split (p : α → Bool) (text : List α) :
    ∃ pad, text = trimEnd p text ++ pad ∧ ∀ c ∈ pad, p c = true := by
  refine ⟨(text.reverse.takeWhile p).reverse, ?_, ?_⟩
  · unfold trimEnd
    rw [← List.reverse_append, List.takeWhile_append_dropWhile, List.reverse_reverse]
  · intro c member
    exact List.all_eq_true.mp List.all_takeWhile c (List.mem_reverse.mp member)

theorem exists_trimEnd (written : ∃ c ∈ text, p c = false) : ∃ c ∈ trimEnd p text, p c = false := by
  obtain ⟨pad, split, blank⟩ := trimEnd_split p text
  obtain ⟨c, member, other⟩ := written
  rw [split] at member
  rcases List.mem_append.mp member with front | back
  · exact ⟨c, front, other⟩
  · rw [blank c back] at other
    cases other

theorem trim_trimEnd (written : ∃ c ∈ text, p c = false) :
    trim p (trimEnd p text) = trim p text := by
  obtain ⟨pad, split, blank⟩ := trimEnd_split p text
  have whole := trim_append_right blank (exists_trimEnd written)
  rw [← split] at whole
  exact whole.symm

theorem mem_of_mem_trimEnd {c : α} (member : c ∈ trimEnd p text) : c ∈ text := by
  obtain ⟨pad, split, -⟩ := trimEnd_split p text
  rw [split]
  exact List.mem_append_left _ member

theorem mem_of_mem_trim {c : α} (member : c ∈ trim p text) : c ∈ text :=
  (List.dropWhile_suffix p).subset (mem_of_mem_trimEnd member)

theorem trim_trim (written : ∃ c ∈ text, p c = false) : trim p (trim p text) = trim p text := by
  have front := exists_dropWhile written
  unfold trim at *
  have end_ := trim_trimEnd front
  unfold trim at end_
  rw [end_]
  exact trim_dropWhile text

/-- A text with something of another kind is not trimmed away. -/
theorem trim_ne_nil (written : ∃ c ∈ text, p c = false) : trim p text ≠ [] := by
  obtain ⟨c, member, -⟩ := exists_trimEnd (exists_dropWhile written)
  exact List.ne_nil_of_mem member

/-- Only what the kind says of the text matters. -/
theorem dropWhile_congr (same : ∀ c ∈ text, p c = q c) : text.dropWhile p = text.dropWhile q := by
  induction text with
  | nil => rfl
  | cons c text ih =>
    have here := same c List.mem_cons_self
    have later := ih fun d member => same d (List.mem_cons_of_mem _ member)
    rw [List.dropWhile_cons, List.dropWhile_cons, here, later]

theorem trimEnd_congr (same : ∀ c ∈ text, p c = q c) : trimEnd p text = trimEnd q text := by
  unfold trimEnd
  rw [dropWhile_congr fun c member => same c (List.mem_reverse.mp member)]

theorem trim_congr (same : ∀ c ∈ text, p c = q c) : trim p text = trim q text := by
  unfold trim
  rw [dropWhile_congr same, trimEnd_congr]
  exact fun c member => same c ((List.dropWhile_suffix q).subset member)

end SimpleVM.Text
