import SimpleVM.Files.Tree

/-!
# Symbolic links

A tree whose leaves hold data or a link, and the walk along a path that follows links. A walk ends
where the path leads, or stops where something is missing, is in the way, or when too many links
have been followed.
-/
namespace SimpleVM.Files

inductive Component (Name : Type)
  | parent
  | name (n : Name)
deriving DecidableEq, Repr

structure Target (Name : Type) where
  absolute : Bool
  components : List (Component Name)
deriving DecidableEq, Repr

inductive Leaf (Name Data : Type)
  | data (bytes : Data)
  | link (target : Target Name)
deriving DecidableEq, Repr

abbrev LinkedTree (Name Data : Type) := Tree Name (Leaf Name Data)

variable {Name Data β γ : Type}

/-- Where the walk goes on from after a link found in `here`. -/
def Target.start (target : Target Name) (here : List Name) : List Name :=
  if target.absolute then [] else here

/-- The components of a path without links. -/
def plain (path : List Name) : List (Component Name) := path.map .name

/-- The walk up to the first link. -/
def walkTo (t : LinkedTree Name Data) (done : List Name → β)
    (stop : List Name → List (Component Name) → β)
    (jump : List Name → Name → Target Name → List (Component Name) → β) :
    List Name → List (Component Name) → β
  | here, [] => done here
  | here, .parent :: rest => walkTo t done stop jump here.dropLast rest
  | here, .name n :: rest =>
    match t (here ++ [n]) with
    | none => stop (here ++ [n]) rest
    | some .directory => walkTo t done stop jump (here ++ [n]) rest
    | some (.file (.data _)) =>
      if rest.isEmpty then done (here ++ [n]) else stop (here ++ [n]) rest
    | some (.file (.link target)) => jump here n target rest

/-- The walk, which follows at most `links` links. -/
def walk (t : LinkedTree Name Data) (done : List Name → β)
    (stop : List Name → List (Component Name) → β) :
    Nat → List Name → List (Component Name) → β
  | 0 => walkTo t done stop fun here n _ rest => stop (here ++ [n]) rest
  | links + 1 => walkTo t done stop fun here _ target rest =>
    walk t done stop links (target.start here) (target.components ++ rest)

/-- What the system finds at a path. -/
def follow (t : LinkedTree Name Data) : Nat → List Name → List (Component Name) →
    Option (List Name) :=
  walk t some fun _ _ => none

/-- `..` removed without a look at the tree. -/
def lexical (here : List Name) : List (Component Name) → List Name
  | [] => here
  | .parent :: rest => lexical here.dropLast rest
  | .name n :: rest => lexical (here ++ [n]) rest

/-- The path with its links resolved as far as it exists. -/
def resolveLinks (t : LinkedTree Name Data) : Nat → List Name → List (Component Name) →
    List Name :=
  walk t id lexical

section Walk

variable {t u : LinkedTree Name Data} {done : List Name → β}
  {stop : List Name → List (Component Name) → β} {links : Nat} {here p : List Name} {n : Name}
  {rest components : List (Component Name)} {target : Target Name}

@[simp] theorem walk_nil : walk t done stop links here [] = done here := by
  cases links <;> rfl

@[simp] theorem walk_parent :
    walk t done stop links here (.parent :: rest) = walk t done stop links here.dropLast rest := by
  cases links <;> rfl

attribute [local simp] walk walkTo in
theorem walk_missing (missing : t (here ++ [n]) = none) :
    walk t done stop links here (.name n :: rest) = stop (here ++ [n]) rest := by
  cases links <;> simp [walk, walkTo, missing]

theorem walk_directory (directory : t (here ++ [n]) = some .directory) :
    walk t done stop links here (.name n :: rest) =
      walk t done stop links (here ++ [n]) rest := by
  cases links <;> simp [walk, walkTo, directory]

theorem walk_data {bytes : Data} (data : t (here ++ [n]) = some (.file (.data bytes))) :
    walk t done stop links here (.name n :: rest) =
      if rest.isEmpty then done (here ++ [n]) else stop (here ++ [n]) rest := by
  cases links <;> simp [walk, walkTo, data]

theorem walk_link (link : t (here ++ [n]) = some (.file (.link target))) :
    walk t done stop (links + 1) here (.name n :: rest) =
      walk t done stop links (target.start here) (target.components ++ rest) := by
  simp [walk, walkTo, link]

theorem walk_no_links (link : t (here ++ [n]) = some (.file (.link target))) :
    walk t done stop 0 here (.name n :: rest) = stop (here ++ [n]) rest := by
  simp [walk, walkTo, link]

/-- What holds after each step of a walk holds of the walk: components are used up, or a link is. -/
theorem walk_induction {motive : Nat → List Name → List (Component Name) → Prop}
    (nil : ∀ links here, motive links here [])
    (parent : ∀ links here rest, motive links here.dropLast rest →
      motive links here (.parent :: rest))
    (name : ∀ links here n rest, motive links (here ++ [n]) rest →
      (∀ fewer, links = fewer + 1 → ∀ here components, motive fewer here components) →
      motive links here (.name n :: rest))
    (links : Nat) (here : List Name) (components : List (Component Name)) :
    motive links here components := by
  induction links generalizing here components with
  | zero =>
    induction components generalizing here with
    | nil => exact nil 0 here
    | cons first rest ih =>
      cases first with
      | parent => exact parent 0 here rest (ih _)
      | name n => exact name 0 here n rest (ih _) fun fewer none => by omega
  | succ links fewer =>
    induction components generalizing here with
    | nil => exact nil _ here
    | cons first rest ih =>
      cases first with
      | parent => exact parent _ here rest (ih _)
      | name n =>
        refine name _ here n rest (ih _) fun less same here components => ?_
        rw [show less = links by omega]
        exact fewer here components

/-- Two walks that end and stop alike come to the same. -/
theorem walk_related (R : β → γ → Prop) {done' : List Name → γ}
    {stop' : List Name → List (Component Name) → γ} (ends : ∀ p, R (done p) (done' p))
    (stops : ∀ p rest, R (stop p rest) (stop' p rest)) (links : Nat) (here : List Name)
    (components : List (Component Name)) :
    R (walk t done stop links here components) (walk t done' stop' links here components) := by
  -- Along the walk: both sides look at the same node of the tree at every component.
  induction links, here, components using walk_induction with
  | nil links here => simpa using ends here
  | parent links here rest ih => simpa using ih
  | name links here n rest onward fewer =>
    cases found : t (here ++ [n]) with
    | none =>
      rw [walk_missing found, walk_missing found]
      exact stops _ _
    | some node =>
      cases node with
      | directory =>
        rw [walk_directory found, walk_directory found]
        exact onward
      | file leaf =>
        cases leaf with
        | data bytes =>
          rw [walk_data found, walk_data found]
          split
          · exact ends _
          · exact stops _ _
        | link target =>
          -- A link costs one of the links left; without one, both sides stop here.
          cases links with
          | zero =>
            rw [walk_no_links found, walk_no_links found]
            exact stops _ _
          | succ links =>
            rw [walk_link found, walk_link found]
            exact fewer links rfl _ _

/-- Resolving the links of a path that leads somewhere gives where it leads. -/
theorem resolveLinks_of_follow (found : follow t links here components = some p) :
    resolveLinks t links here components = p := by
  let R (end_ : Option (List Name)) (path : List Name) : Prop := ∀ p, end_ = some p → path = p
  have related : R (follow t links here components) (resolveLinks t links here components) :=
    walk_related R (fun _ _ same => Option.some.inj same) (fun _ _ _ none => by cases none)
      links here components
  exact related p found

/-- How a walk that leads somewhere went on. -/
theorem follow_cases (found : follow t links here (.name n :: rest) = some p) :
    (t (here ++ [n]) = some .directory ∧ follow t links (here ++ [n]) rest = some p) ∨
      (∃ bytes, t (here ++ [n]) = some (.file (.data bytes)) ∧ rest = [] ∧ p = here ++ [n]) ∨
      ∃ target fewer, links = fewer + 1 ∧ t (here ++ [n]) = some (.file (.link target)) ∧
        follow t fewer (target.start here) (target.components ++ rest) = some p := by
  unfold follow at found
  -- Only a directory, a final file and a link within the limit let the walk go on.
  cases node : t (here ++ [n]) with
  | none =>
    rw [walk_missing node] at found
    cases found
  | some entry =>
    cases entry with
    | directory =>
      rw [walk_directory node] at found
      exact .inl ⟨rfl, found⟩
    | file leaf =>
      cases leaf with
      | data bytes =>
        rw [walk_data node] at found
        split at found
        · next last =>
          exact .inr (.inl ⟨bytes, rfl, List.isEmpty_iff.mp last, (Option.some.inj found).symm⟩)
        · cases found
      | link target =>
        cases links with
        | zero =>
          rw [walk_no_links node] at found
          cases found
        | succ fewer =>
          rw [walk_link node] at found
          exact .inr (.inr ⟨target, fewer, rfl, rfl, found⟩)

/-- There is a directory or a file with data. -/
def Ends (t : LinkedTree Name Data) (p : List Name) : Prop :=
  t p = some .directory ∨ ∃ bytes, t p = some (.file (.data bytes))

/-- The root is a directory, and whatever exists is in a directory. -/
structure Rooted (t : LinkedTree Name Data) : Prop where
  root : t [] = some .directory
  parents : ∀ p n, (t (p ++ [n])).isSome → t p = some .directory

theorem Rooted.dropLast (rooted : Rooted t) (directory : t p = some .directory) :
    t p.dropLast = some .directory := by
  rcases List.eq_nil_or_concat p with rfl | ⟨q, n, rfl⟩
  · exact rooted.root
  · rw [List.concat_eq_append] at directory ⊢
    rw [List.dropLast_concat]
    exact rooted.parents q n (by simp [directory])

/-- What something is below is a directory. -/
theorem Rooted.directory_above {q : List Name} (rooted : Rooted t) (present : (t q).isSome)
    (above : p <+: q) (differ : p ≠ q) : t p = some .directory := by
  obtain ⟨rest, rfl⟩ := above
  induction rest generalizing p with
  | nil => exact absurd (List.append_nil p).symm differ
  | cons n rest ih =>
    cases rest with
    | nil => exact rooted.parents p n present
    | cons m rest =>
      have regroup : p ++ n :: m :: rest = (p ++ [n]) ++ m :: rest := by simp
      rw [regroup] at present
      have next := ih present fun same => by simpa using congrArg List.length same
      exact rooted.parents p n (by simp [next])

/-- A walk does not end at a link. -/
theorem follow_ends (rooted : Rooted t) (start : t here = some .directory)
    (found : follow t links here components = some p) : Ends t p := by
  induction links, here, components using walk_induction with
  | nil links here =>
    simp only [follow, walk_nil, Option.some.injEq] at found
    exact .inl (found ▸ start)
  | parent links here rest ih =>
    simp only [follow, walk_parent] at found
    exact ih (rooted.dropLast start) found
  | name links here n rest onward fewer =>
    rcases follow_cases found with ⟨directory, found⟩ | ⟨bytes, data, -, rfl⟩ |
      ⟨target, less, same, -, found⟩
    · exact onward directory found
    · exact .inr ⟨bytes, data⟩
    · refine fewer less same _ _ ?_ found
      unfold Target.start
      split
      · exact rooted.root
      · exact start

/-- The last component leads to what its directory has under that name, if it is no link. -/
theorem follow_last (directory : t p = some .directory) (ends : Ends t (p ++ [n]))
    (found : follow t links here components = some p) :
    follow t links here (components ++ [.name n]) = some (p ++ [n]) := by
  induction links, here, components using walk_induction with
  | nil links here =>
    simp only [follow, walk_nil, Option.some.injEq] at found
    subst found
    rcases ends with isDirectory | ⟨bytes, data⟩
    · simp [follow, walk_directory isDirectory]
    · simp [follow, walk_data data]
  | parent links here rest ih =>
    simp only [follow, walk_parent, List.cons_append] at found ⊢
    exact ih found
  | name links here m rest onward fewer =>
    rcases follow_cases found with ⟨isDirectory, onto⟩ | ⟨bytes, data, -, rfl⟩ |
      ⟨target, less, rfl, link, onto⟩
    · rw [List.cons_append, follow, walk_directory isDirectory]
      exact onward onto
    · rw [data] at directory
      cases directory
    · rw [List.cons_append, follow, walk_link link, ← List.append_assoc]
      exact fewer less rfl _ _ onto

/-- A walk that leads somewhere came through the directory of its last component. -/
theorem exists_of_follow_last
    (found : follow t links here (components ++ [.name n]) = some p) :
    ∃ q, follow t links here components = some q ∧ (t (q ++ [n])).isSome := by
  induction links, here, components using walk_induction with
  | nil links here =>
    refine ⟨here, by simp [follow], ?_⟩
    rcases follow_cases found with ⟨directory, -⟩ | ⟨bytes, data, -⟩ | ⟨target, -, -, link, -⟩
    · simp [directory]
    · simp [data]
    · simp [link]
  | parent links here rest ih =>
    simp only [follow, walk_parent, List.cons_append] at found ⊢
    exact ih found
  | name links here m rest onward fewer =>
    rw [List.cons_append] at found
    rcases follow_cases found with ⟨directory, onto⟩ | ⟨bytes, data, empty, -⟩ |
      ⟨target, less, rfl, link, onto⟩
    · rw [follow, walk_directory directory]
      exact onward onto
    · simp at empty
    · rw [follow, walk_link link]
      rw [← List.append_assoc] at onto
      exact fewer less rfl _ _ onto

/-- On a walk that leads somewhere each name is that of an entry. -/
theorem exists_of_mem (found : follow t links here components = some p)
    (member : .name n ∈ components) : ∃ q, (t (q ++ [n])).isSome := by
  induction links, here, components using walk_induction with
  | nil links here => cases member
  | parent links here rest ih =>
    simp only [follow, walk_parent] at found
    exact ih found (by simpa using member)
  | name links here m rest onward fewer =>
    rcases List.mem_cons.mp member with same | later
    · cases same
      rcases follow_cases found with ⟨directory, -⟩ | ⟨bytes, data, -⟩ | ⟨target, -, -, link, -⟩
      · exact ⟨here, by simp [directory]⟩
      · exact ⟨here, by simp [data]⟩
      · exact ⟨here, by simp [link]⟩
    · rcases follow_cases found with ⟨-, onto⟩ | ⟨bytes, -, empty, -⟩ |
        ⟨target, less, same, -, onto⟩
      · exact onward onto later
      · simp [empty] at later
      · exact fewer less same _ _ onto (List.mem_append_right _ later)

/-- The names in the components of a path. -/
def Names (ok : Name → Prop) (components : List (Component Name)) : Prop :=
  ∀ n, .name n ∈ components → ok n

/-- Trees that agree on paths of certain names, where links lead to such names as well, have the
same walks along such names. -/
theorem walk_congr (ok : Name → Prop) (agree : ∀ q, (∀ m ∈ q, ok m) → t q = u q)
    (links_ok : ∀ q target, (∀ m ∈ q, ok m) → t q = some (.file (.link target)) →
      Names ok target.components)
    (here_ok : ∀ m ∈ here, ok m) (names : Names ok components) :
    walk t done stop links here components = walk u done stop links here components := by
  -- The components still to come and the directory reached stay among the names on which the two
  -- trees agree; a link adds the components of its target.
  induction links, here, components using walk_induction with
  | nil links here => simp
  | parent links here rest ih =>
    simp only [walk_parent]
    exact ih (fun m member => here_ok m ((List.dropLast_sublist here).mem member))
      fun m member => names m (List.mem_cons_of_mem _ member)
  | name links here n rest onward fewer =>
    have next_ok : ∀ m ∈ here ++ [n], ok m := by
      intro m member
      rcases List.mem_append.mp member with earlier | last
      · exact here_ok m earlier
      · rw [List.mem_singleton.mp last]
        exact names n List.mem_cons_self
    have rest_ok : Names ok rest := fun m member => names m (List.mem_cons_of_mem _ member)
    have same := agree _ next_ok
    cases node : t (here ++ [n]) with
    | none => rw [walk_missing node, walk_missing (same ▸ node)]
    | some entry =>
      cases entry with
      | directory =>
        rw [walk_directory node, walk_directory (same ▸ node)]
        exact onward next_ok rest_ok
      | file leaf =>
        cases leaf with
        | data bytes => rw [walk_data node, walk_data (same ▸ node)]
        | link target =>
          cases links with
          | zero => rw [walk_no_links node, walk_no_links (same ▸ node)]
          | succ links =>
            rw [walk_link node, walk_link (same ▸ node)]
            refine fewer links rfl _ _ ?_ ?_
            · unfold Target.start
              split
              · intro m member
                cases member
              · exact here_ok
            · intro m member
              rcases List.mem_append.mp member with first | later
              · exact links_ok _ target next_ok node m first
              · exact rest_ok m later

end Walk

section Listed

variable [DecidableEq Name] {entries : List (List Name × Node (Leaf Name Data))}

/-- The tree of the entries that are listed. -/
def ofEntries (entries : List (List Name × Node (Leaf Name Data))) : LinkedTree Name Data := fun p =>
  (entries.find? fun entry => decide (entry.1 = p)).map (·.2)

theorem mem_of_ofEntries {p : List Name} {node : Node (Leaf Name Data)}
    (found : ofEntries entries p = some node) : (p, node) ∈ entries := by
  obtain ⟨entry, first, rfl⟩ := Option.map_eq_some_iff.mp found
  have here := List.find?_some first
  have member := List.mem_of_find?_eq_some first
  rwa [← of_decide_eq_true here]

theorem rooted_ofEntries (root : ofEntries entries [] = some .directory)
    (parents : ∀ entry ∈ entries, ofEntries entries entry.1.dropLast = some .directory) :
    Rooted (ofEntries entries) := by
  refine ⟨root, fun p n present => ?_⟩
  obtain ⟨node, found⟩ := Option.isSome_iff_exists.mp present
  have parent := parents _ (mem_of_ofEntries found)
  rwa [List.dropLast_concat] at parent

end Listed

end SimpleVM.Files
