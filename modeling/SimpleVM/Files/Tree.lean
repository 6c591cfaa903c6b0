/-!
# File trees

A tree is a partial map from paths to nodes, and a path is a list of names. An operation on a
directory acts on every path below it. Two paths are apart when neither is below the other:
what is done at one of them is not seen at the other, nor below it.
-/
namespace SimpleVM.Files

variable {Name Content : Type}

inductive Node (Content : Type)
  | directory
  | file (content : Content)
deriving DecidableEq, Repr

abbrev Tree (Name Content : Type) := List Name → Option (Node Content)

theorem not_append_above {p x : List Name} (nonempty : x ≠ []) : ¬ p ++ x <+: p := by
  intro under
  have bound := under.length_le
  have length := List.length_pos_iff.mpr nonempty
  rw [List.length_append] at bound
  omega

/-- Neither path is below the other. -/
def Apart (a b : List Name) : Prop := ¬ a <+: b ∧ ¬ b <+: a

namespace Apart

variable {a b p q : List Name}

theorem symm (apart : Apart a b) : Apart b a := ⟨apart.2, apart.1⟩

/-- Below paths that are apart everything is. -/
theorem below (apart : Apart a b) (left : a <+: p) (right : b <+: q) : Apart p q := by
  constructor
  · intro under
    rcases List.prefix_or_prefix_of_prefix (left.trans under) right with first | second
    · exact apart.1 first
    · exact apart.2 second
  · intro under
    rcases List.prefix_or_prefix_of_prefix left (right.trans under) with first | second
    · exact apart.1 first
    · exact apart.2 second

theorem append (apart : Apart a b) (x y : List Name) : Apart (a ++ x) (b ++ y) :=
  apart.below (List.prefix_append a x) (List.prefix_append b y)

theorem not_below (apart : Apart a b) (right : b <+: q) : ¬ a <+: q :=
  (apart.below (List.prefix_refl a) right).1

theorem not_below_append (apart : Apart a b) {x : List Name} : ¬ a <+: b ++ x :=
  apart.not_below (List.prefix_append b x)

theorem append_not_below (apart : Apart a b) {x : List Name} : ¬ a ++ x <+: b :=
  (apart.below (List.prefix_append a x) (List.prefix_refl b)).1

/-- Names that differ set two paths apart. -/
theorem of_ne {x y : Name} (differ : x ≠ y) (r s : List Name) :
    Apart (x :: r) (y :: s) := by
  constructor
  · intro under
    exact differ (List.cons_prefix_cons.mp under).1
  · intro under
    exact differ (List.cons_prefix_cons.mp under).1.symm

theorem cons (x : Name) (apart : Apart a b) : Apart (x :: a) (x :: b) := by
  constructor
  · intro under
    exact apart.1 (List.cons_prefix_cons.mp under).2
  · intro under
    exact apart.2 (List.cons_prefix_cons.mp under).2

theorem prepend (front : List Name) (apart : Apart a b) : Apart (front ++ a) (front ++ b) := by
  induction front with
  | nil => exact apart
  | cons x rest ih => exact ih.cons x

end Apart

namespace Tree

variable [DecidableEq Name] {t : Tree Name Content} {a b p q r : List Name}

/-- The directories on the way to `p` and `p` itself are made where there is nothing. -/
def makeDirectory (t : Tree Name Content) (p : List Name) : Tree Name Content := fun q =>
  if q <+: p ∧ (t q).isNone then some .directory else t q

def write (t : Tree Name Content) (p : List Name) (content : Content) : Tree Name Content :=
  fun q => if q = p then some (.file content) else t q

/-- All of `source` appears at `destination` as well. -/
def copy (t : Tree Name Content) (source destination : List Name) : Tree Name Content := fun q =>
  if destination <+: q then t (source ++ q.drop destination.length) else t q

def remove (t : Tree Name Content) (p : List Name) : Tree Name Content := fun q =>
  if p <+: q then none else t q

/-- A removal that stops half way leaves the survivors and the directories they are in. -/
def removePartly (t : Tree Name Content) (p : List Name) (survivors : List (List Name)) :
    Tree Name Content := fun q =>
  if p <+: q ∧ ∀ survivor ∈ survivors, ¬ q <+: survivor then none else t q

/-- `replacement` takes the place of `original`. -/
def replace (t : Tree Name Content) (original replacement : List Name) : Tree Name Content :=
  fun q =>
    if original <+: q then t (replacement ++ q.drop original.length)
    else if replacement <+: q then none
    else t q

/-- The two change places. -/
def swap (t : Tree Name Content) (a b : List Name) : Tree Name Content := fun q =>
  if a <+: q then t (b ++ q.drop a.length)
  else if b <+: q then t (a ++ q.drop b.length)
  else t q

theorem makeDirectory_other (outside : ¬ q <+: p) : t.makeDirectory p q = t q :=
  if_neg fun both => outside both.1

theorem makeDirectory_isSome (above : q <+: p) : (t.makeDirectory p q).isSome := by
  unfold makeDirectory
  split
  · rfl
  · rename_i there
    cases present : t q with
    | none => exact absurd ⟨above, by simp [present]⟩ there
    | some node => rfl

theorem makeDirectory_some {node : Node Content} (present : t q = some node) :
    t.makeDirectory p q = some node := by
  simp [makeDirectory, present]

theorem write_other {content : Content} (differ : q ≠ p) : t.write p content q = t q :=
  if_neg differ

@[simp] theorem write_self (t : Tree Name Content) (p : List Name) (content : Content) :
    t.write p content p = some (.file content) := if_pos rfl

@[simp] theorem copy_below (t : Tree Name Content) (source destination r : List Name) :
    t.copy source destination (destination ++ r) = t (source ++ r) := by
  simp [copy]

theorem copy_other {source : List Name} (outside : ¬ p <+: q) : t.copy source p q = t q :=
  if_neg outside

theorem remove_below (under : p <+: q) : t.remove p q = none := if_pos under

theorem remove_other (outside : ¬ p <+: q) : t.remove p q = t q := if_neg outside

theorem removePartly_other {survivors : List (List Name)} (outside : ¬ p <+: q) :
    t.removePartly p survivors q = t q := if_neg fun both => outside both.1

@[simp] theorem replace_below (t : Tree Name Content) (original replacement r : List Name) :
    t.replace original replacement (original ++ r) = t (replacement ++ r) := by
  simp [replace]

theorem replace_other (first : ¬ a <+: q) (second : ¬ b <+: q) : t.replace a b q = t q := by
  rw [replace, if_neg first, if_neg second]

@[simp] theorem swap_left (t : Tree Name Content) (a b r : List Name) :
    t.swap a b (a ++ r) = t (b ++ r) := by
  simp [swap]

theorem swap_other (first : ¬ a <+: q) (second : ¬ b <+: q) : t.swap a b q = t q := by
  rw [swap, if_neg first, if_neg second]

/-- What exists is in directories that exist. -/
def Closed (t : Tree Name Content) : Prop := ∀ p q, p <+: q → (t q).isSome → (t p).isSome

namespace Closed

omit [DecidableEq Name] in
theorem none_below (closed : t.Closed) (absent : t p = none) (under : p <+: q) : t q = none := by
  cases there : t q with
  | none => rfl
  | some node =>
    have present := closed p q under (by simp [there])
    simp [absent] at present

omit [DecidableEq Name] in
/-- A path that is not below `p` but above something below it is above `p`. -/
private theorem above_parent (onPath : q <+: r) (under : p <+: r) (outside : ¬ p <+: q) :
    q <+: p.dropLast := by
  rcases List.prefix_or_prefix_of_prefix onPath under with above | below
  · obtain ⟨rest, rfl⟩ := above
    have nonempty : rest ≠ [] := by
      rintro rfl
      exact outside (by simp)
    rw [List.dropLast_append_of_ne_nil nonempty]
    exact List.prefix_append _ _
  · exact absurd below outside

theorem makeDirectory (closed : t.Closed) (p : List Name) : (t.makeDirectory p).Closed := by
  have isSome (q : List Name) : (t.makeDirectory p q).isSome ↔ q <+: p ∨ (t q).isSome := by
    unfold Tree.makeDirectory
    split
    · rename_i made
      simp [made.1]
    · rename_i kept
      cases there : t q with
      | none =>
        have apart : ¬ q <+: p := fun above => kept ⟨above, by simp [there]⟩
        simp [apart]
      | some node => simp
  intro q r onPath present
  rw [isSome] at present ⊢
  rcases present with above | present
  · exact .inl (onPath.trans above)
  · exact .inr (closed q r onPath present)

theorem remove (closed : t.Closed) (p : List Name) : (t.remove p).Closed := by
  intro q r onPath present
  by_cases under : p <+: r
  · rw [remove_below under] at present
    cases present
  · rw [remove_other under] at present
    rw [remove_other fun below => under (below.trans onPath)]
    exact closed q r onPath present

theorem removePartly (closed : t.Closed) (p : List Name) (survivors : List (List Name)) :
    (t.removePartly p survivors).Closed := by
  intro q r onPath present
  unfold Tree.removePartly at present ⊢
  split at present
  · cases present
  · rename_i stays
    have above := closed q r onPath present
    rwa [if_neg]
    rintro ⟨below, gone⟩
    refine stays ⟨below.trans onPath, fun survivor among reaches => ?_⟩
    exact gone survivor among (onPath.trans reaches)

/-- Something is put below a directory. -/
private theorem put (closed : t.Closed) {u : Tree Name Content}
    (parent : (t p.dropLast).isSome) (inside : ∀ q r, p <+: q → q <+: r → (u r).isSome →
      (u q).isSome) (outside : ∀ q, ¬ p <+: q → u q = t q) : u.Closed := by
  intro q r onPath present
  by_cases below : p <+: q
  · exact inside q r below onPath present
  · rw [outside q below]
    by_cases under : p <+: r
    · exact closed q _ (above_parent onPath under below) parent
    · rw [outside r under] at present
      exact closed q r onPath present

theorem copy (closed : t.Closed) {source destination : List Name}
    (parent : (t destination.dropLast).isSome) : (t.copy source destination).Closed := by
  refine closed.put parent ?_ fun q apart => copy_other apart
  rintro _ _ ⟨front, rfl⟩ ⟨rest, rfl⟩ present
  rw [copy_below]
  rw [List.append_assoc, copy_below] at present
  refine closed _ _ ?_ present
  rw [← List.append_assoc]
  exact List.prefix_append _ _

theorem write (closed : t.Closed) {content : Content} (parent : (t p.dropLast).isSome) :
    (t.write p content).Closed := by
  intro q r onPath present
  by_cases here : q = p
  · simp [here]
  · rw [write_other here]
    by_cases there : r = p
    · have notBelow : ¬ p <+: q := by
        intro below
        have length := below.length_le
        exact here ((there ▸ onPath).eq_of_length_le length)
      exact closed q _ (above_parent (there ▸ onPath) (List.prefix_refl p) notBelow) parent
    · rw [write_other there] at present
      exact closed q r onPath present

/-- What is moved away is gone, and what is below the place it is moved to is what was below
the one it came from. -/
theorem replace (closed : t.Closed) (parent : (t a.dropLast).isSome)
    (apart : ¬ b <+: a.dropLast) : (t.replace a b).Closed := by
  intro q r onPath present
  by_cases below : a <+: q
  · obtain ⟨front, rfl⟩ := below
    obtain ⟨rest, rfl⟩ := onPath
    rw [replace_below]
    rw [List.append_assoc, replace_below, ← List.append_assoc] at present
    exact closed _ _ (List.prefix_append _ _) present
  · by_cases under : a <+: r
    · have above := above_parent onPath under below
      rw [replace_other below fun moved => apart (moved.trans above)]
      exact closed q _ above parent
    · by_cases moved : b <+: r
      · rw [Tree.replace, if_neg under, if_pos moved] at present
        cases present
      · rw [replace_other under moved] at present
        rw [replace_other below fun here => moved (here.trans onPath)]
        exact closed q r onPath present

theorem swap (closed : t.Closed) (apart : Apart a b) (first : (t a).isSome)
    (second : (t b).isSome) : (t.swap a b).Closed := by
  have right (rest : List Name) : t.swap a b (b ++ rest) = t (a ++ rest) := by
    have outside : ¬ a <+: b ++ rest := apart.not_below (List.prefix_append b rest)
    rw [Tree.swap, if_neg outside, if_pos (List.prefix_append b rest)]
    simp
  intro q r onPath present
  by_cases belowA : a <+: q
  · obtain ⟨front, rfl⟩ := belowA
    obtain ⟨rest, rfl⟩ := onPath
    rw [swap_left]
    rw [List.append_assoc, swap_left, ← List.append_assoc] at present
    exact closed _ _ (List.prefix_append _ _) present
  by_cases belowB : b <+: q
  · obtain ⟨front, rfl⟩ := belowB
    obtain ⟨rest, rfl⟩ := onPath
    rw [right]
    rw [List.append_assoc, right, ← List.append_assoc] at present
    exact closed _ _ (List.prefix_append _ _) present
  rw [swap_other belowA belowB]
  by_cases underA : a <+: r
  · exact closed q a ((above_parent onPath underA belowA).trans (List.dropLast_prefix a)) first
  by_cases underB : b <+: r
  · exact closed q b ((above_parent onPath underB belowB).trans (List.dropLast_prefix b)) second
  rw [swap_other underA underB] at present
  exact closed q r onPath present

end Closed

end Tree

end SimpleVM.Files
