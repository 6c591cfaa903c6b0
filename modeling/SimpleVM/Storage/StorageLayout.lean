import SimpleVM.Files.LexicalPath
import SimpleVM.Storage.Paths
import SimpleVM.Swift.Characters

/-!
# Paths in managed storage

`StorageLayout` turns URLs below its root into relative paths and back. It cuts a relative path at
characters; the path of the URL it makes is cut at scalars.
-/
namespace SimpleVM.Storage

open Files Swift

/-- Strings are equal when they are canonically equivalent. -/
structure CanonicalForm where
  decomposed : List Char → List Char
  decomposed_ascii : ∀ text, (∀ c ∈ text, IsASCII c) → decomposed text = text

/-- An absolute file URL, by what stands between the slashes of its path. -/
structure FileURL where
  components : List (List Char)
  slashless : ∀ component ∈ components, '/' ∉ component

inductive StorageLayoutError
  | outsideManagedStorage | invalidRelativePath
deriving DecidableEq, Repr

def StorageLayoutError.errorDescription : StorageLayoutError → String
  | .outsideManagedStorage => "The file is outside SimpleVM managed storage."
  | .invalidRelativePath => "The managed storage path is invalid."

theorem slashless_pathComponents (text : List Char) :
    ∀ component ∈ pathComponents text, '/' ∉ component := by
  induction text with
  | nil => simp [pathComponents]
  | cons c rest ih =>
    unfold pathComponents
    split
    · intro component member
      rcases List.mem_cons.mp member with rfl | later
      · simp
      · exact ih component later
    · next other =>
      have apart : '/' ≠ c := fun same => other same.symm
      split
      · intro component member
        rw [List.mem_singleton.mp member]
        simp [apart]
      · next component others cut =>
        rw [cut] at ih
        intro name member
        rcases List.mem_cons.mp member with rfl | later
        · have inner := ih component List.mem_cons_self
          simp [apart, inner]
        · exact ih name (List.mem_cons_of_mem component later)

namespace FileURL

/-- `appending(path:)`; slashes that meet make an empty component. -/
def appending (url : FileURL) (path : List Char) : FileURL where
  components := url.components ++ pathComponents path
  slashless := by
    intro component member
    rcases List.mem_append.mp member with old | new
    · exact url.slashless component old
    · exact slashless_pathComponents path component new

/-- `standardizedFileURL.pathComponents` -/
def standardizedComponents (url : FileURL) : List (List Char) :=
  ['/'] :: standardized url.components

end FileURL

/-- `hasPrefix("/")` -/
def hasSlashPrefix (joins : Joins) : List Char → Bool
  | [] => false
  | c :: rest => c = '/' && joins.endsBefore rest

/-- What lies between the slashes that are characters of their own; `previous` is the scalar
before the text. -/
def slashPieces (joins : Joins) : Option Char → List Char → List (List Char)
  | _, [] => [[]]
  | previous, c :: rest =>
    if c = '/' ∧ joins.startsAfter previous ∧ joins.endsBefore rest then
      [] :: slashPieces joins (some c) rest
    else (slashPieces joins (some c) rest).modifyHead (List.cons c)

/-- `split(separator: "/")` -/
def split (joins : Joins) (text : List Char) : List (List Char) :=
  (slashPieces joins none text).filter (· ≠ [])

structure StorageLayout where
  rootURL : FileURL

namespace StorageLayout

def relativePath (form : CanonicalForm) (layout : StorageLayout) (url : FileURL) :
    Except StorageLayoutError (List Char) :=
  let rootComponents := layout.rootURL.standardizedComponents
  let urlComponents := url.standardizedComponents
  if (rootComponents.map form.decomposed).isPrefixOf (urlComponents.map form.decomposed) then
    .ok (['/'].intercalate (urlComponents.drop rootComponents.length))
  else .error .outsideManagedStorage

def resolve (joins : Joins) (layout : StorageLayout) (relativePath : List Char) :
    Except StorageLayoutError FileURL :=
  if hasSlashPrefix joins relativePath || (split joins relativePath).contains ['.', '.'] then
    .error .invalidRelativePath
  else .ok (layout.rootURL.appending relativePath)

end StorageLayout

section Cutting

variable {joins : Joins}

/-- A `..` ends here, or at a slash that is a character of its own. -/
def EndsPiece (joins : Joins) (text : List Char) : Prop :=
  text = [] ∨ ∃ rest, text = '/' :: rest ∧ joins.endsBefore rest

/-- The text has a `..` between slashes that are characters of their own. -/
def HasParent (joins : Joins) (text : List Char) : Prop :=
  ∃ before after, text = before ++ ['.', '.'] ++ after ∧ EndsPiece joins after ∧
    (before = [] ∨ ∃ front, before = front ++ ['/'] ∧ joins.startsAfter front.getLast?)

theorem startsAfter_ascii (joins : Joins) {c : Char} (ascii : IsASCII c) : joins.startsAfter (some c) = true := by
  simp [Joins.startsAfter, joins.leader_ascii c ascii]

theorem endsBefore_ascii {c : Char} (ascii : IsASCII c) (rest : List Char) :
    joins.endsBefore (c :: rest) = true := by
  simp [Joins.endsBefore, joins.mark_ascii c ascii]

theorem mem_iff_head_or_tail {pieces : List (List Char)} {piece : List Char} :
    piece ∈ pieces ↔ pieces.head? = some piece ∨ piece ∈ pieces.tail := by
  cases pieces with
  | nil => simp
  | cons first others => simp [eq_comm]

/-- The first piece, when it is made of ASCII: it is what the text starts with. -/
theorem head_slashPieces {previous : Option Char} (text : List Char) {piece : List Char}
    (free : joins.startsAfter previous = true) (plain : ∀ c ∈ piece, IsASCII c ∧ c ≠ '/') :
    (slashPieces joins previous text).head? = some piece ↔
      ∃ after, text = piece ++ after ∧ EndsPiece joins after := by
  induction piece generalizing previous text with
  | nil =>
    cases text with
    | nil => simp [slashPieces, EndsPiece]
    | cons c rest =>
      unfold slashPieces
      split
      · next own =>
        obtain ⟨rfl, -, ends⟩ := own
        simp only [List.head?_cons, true_iff]
        exact ⟨_, rfl, .inr ⟨rest, rfl, ends⟩⟩
      · next inner =>
        rw [List.head?_modifyHead]
        constructor
        · intro empty
          obtain ⟨first, -, same⟩ := Option.map_eq_some_iff.mp empty
          cases same
        · rintro ⟨after, rfl, ends⟩
          rcases ends with nothing | ⟨rest', whole, ends⟩
          · cases nothing
          · cases whole
            exact absurd ⟨rfl, free, ends⟩ inner
  | cons d piece ih =>
    obtain ⟨ascii, other⟩ := plain d List.mem_cons_self
    cases text with
    | nil => simp [slashPieces]
    | cons c rest =>
      unfold slashPieces
      split
      · next own =>
        constructor
        · intro empty
          cases empty
        · rintro ⟨after, whole, -⟩
          cases whole
          exact absurd own.1 other
      · have next (same : c = d) := ih rest (startsAfter_ascii joins (same ▸ ascii))
          fun e member => plain e (List.mem_cons_of_mem d member)
        rw [List.head?_modifyHead]
        constructor
        · intro first
          obtain ⟨head, here, same⟩ := Option.map_eq_some_iff.mp first
          cases same
          obtain ⟨after, whole, ends⟩ := (next rfl).mp here
          exact ⟨after, by rw [whole]; rfl, ends⟩
        · rintro ⟨after, whole, ends⟩
          obtain ⟨rfl, rfl⟩ := List.cons.inj whole
          rw [(next rfl).mpr ⟨after, rfl, ends⟩]
          rfl

/-- Every later piece starts after a slash that is a character of its own. -/
theorem mem_tail_slashPieces {previous : Option Char} {text piece : List Char}
    (plain : ∀ c ∈ piece, IsASCII c ∧ c ≠ '/') (nonempty : piece ≠ []) :
    piece ∈ (slashPieces joins previous text).tail ↔
      ∃ front after, text = front ++ '/' :: (piece ++ after) ∧
        joins.startsAfter (front.getLast?.or previous) ∧ EndsPiece joins after := by
  induction text generalizing previous with
  | nil => simp [slashPieces]
  | cons c rest ih =>
    have last (front : List Char) :
        (c :: front).getLast?.or previous = front.getLast?.or (some c) := by
      rw [List.getLast?_cons]
      cases front.getLast? <;> rfl
    -- What comes later in the text, whether or not it is cut here.
    have later : piece ∈ (slashPieces joins (some c) rest).tail ↔
        ∃ front after, c :: rest = (c :: front) ++ '/' :: (piece ++ after) ∧
          joins.startsAfter ((c :: front).getLast?.or previous) ∧ EndsPiece joins after := by
      simp only [ih, last, List.cons_append, List.cons.injEq, true_and]
    have starts : ∀ {after}, joins.endsBefore (piece ++ after) = true := by
      intro after
      cases piece with
      | nil => exact absurd rfl nonempty
      | cons d piece => exact endsBefore_ascii (plain d List.mem_cons_self).1 _
    unfold slashPieces
    split
    · next own =>
      obtain ⟨rfl, free, -⟩ := own
      have first := head_slashPieces rest
        (startsAfter_ascii joins (show IsASCII '/' by decide)) plain
      rw [List.tail_cons, mem_iff_head_or_tail, first, later]
      constructor
      · rintro (⟨after, whole, ends⟩ | ⟨front, after, found⟩)
        · exact ⟨[], after, by rw [whole]; rfl, free, ends⟩
        · exact ⟨'/' :: front, after, found⟩
      · rintro ⟨front, after, whole, starts, ends⟩
        cases front with
        | nil => exact .inl ⟨after, (List.cons.inj whole).2, ends⟩
        | cons e front =>
          obtain ⟨rfl, -⟩ := List.cons.inj whole
          exact .inr ⟨front, after, whole, starts, ends⟩
    · next inner =>
      rw [List.tail_modifyHead, later]
      constructor
      · rintro ⟨front, after, found⟩
        exact ⟨c :: front, after, found⟩
      · rintro ⟨front, after, whole, free, ends⟩
        cases front with
        | nil =>
          cases whole
          exact absurd ⟨rfl, free, starts⟩ inner
        | cons e front =>
          obtain ⟨rfl, -⟩ := List.cons.inj whole
          exact ⟨front, after, whole, free, ends⟩

/-- **The guard.** What `resolve` finds in the pieces is a `..` between slashes that are characters
of their own. -/
theorem split_contains_iff {text : List Char} :
    (split joins text).contains ['.', '.'] = true ↔ HasParent joins text := by
  have plain : ∀ c ∈ ['.', '.'], IsASCII c ∧ c ≠ '/' :=
    List.forall_mem_cons.mpr ⟨by decide, List.forall_mem_singleton.mpr (by decide)⟩
  unfold split
  rw [List.contains_iff_mem, List.mem_filter, mem_iff_head_or_tail, head_slashPieces text rfl plain,
    mem_tail_slashPieces plain (by decide)]
  constructor
  · rintro ⟨⟨after, whole, ends⟩ | ⟨front, after, whole, starts, ends⟩, -⟩
    · exact ⟨[], after, whole, ends, .inl rfl⟩
    · refine ⟨front ++ ['/'], after, by simp [whole], ends, .inr ⟨front, rfl, ?_⟩⟩
      rwa [Option.or_none] at starts
  · rintro ⟨before, after, whole, ends, starts⟩
    refine ⟨?_, by decide⟩
    rcases starts with rfl | ⟨front, rfl, starts⟩
    · exact .inl ⟨after, whole, ends⟩
    · refine .inr ⟨front, after, by simp [whole], ?_, ends⟩
      rwa [Option.or_none]

theorem pathComponents_ne_nil (text : List Char) : pathComponents text ≠ [] := by
  unfold pathComponents
  split
  · simp
  · split
    · simp
    · split <;> simp

/-- Cutting at scalars, a slash always cuts. -/
theorem pathComponents_slash (before after : List Char) :
    pathComponents (before ++ '/' :: after) = pathComponents before ++ pathComponents after := by
  induction before with
  | nil => simp [pathComponents]
  | cons c before ih =>
    simp only [List.cons_append, pathComponents]
    split
    · rw [ih, List.cons_append]
    · rw [ih]
      cases cut : pathComponents before with
      | nil => exact absurd cut (pathComponents_ne_nil before)
      | cons first others => rfl

/-- A `..` that the guard finds is a component. -/
theorem HasParent.mem_pathComponents {text : List Char} (found : HasParent joins text) :
    ['.', '.'] ∈ pathComponents text := by
  obtain ⟨before, after, rfl, ends, starts⟩ := found
  have here : ['.', '.'] ∈ pathComponents (['.', '.'] ++ after) := by
    rcases ends with rfl | ⟨rest, rfl, -⟩
    · decide
    · rw [pathComponents_slash]
      exact List.mem_append_left _ (by decide)
  rcases starts with rfl | ⟨front, rfl, -⟩
  · exact here
  · rw [List.append_assoc, List.append_assoc, List.singleton_append, pathComponents_slash]
    exact List.mem_append_right _ here

end Cutting

section Containment

variable {joins : Joins} {form : CanonicalForm}

/-- The URL names the root or something below it. -/
def AtOrBelow (form : CanonicalForm) (root url : FileURL) : Prop :=
  (standardized root.components).map form.decomposed <+:
    (standardized url.components).map form.decomposed

/-- Both URLs name one file. -/
def SameFile (form : CanonicalForm) (url other : FileURL) : Prop :=
  (standardized url.components).map form.decomposed =
    (standardized other.components).map form.decomposed

/-- `resolve` turns the path away at sight: it begins with a slash that is a character of its own,
or has a `..` between such slashes. -/
def IsTurnedAway (joins : Joins) (path : List Char) : Prop :=
  (∃ rest, path = '/' :: rest ∧ joins.endsBefore rest) ∨ HasParent joins path

theorem hasSlashPrefix_iff {path : List Char} :
    hasSlashPrefix joins path = true ↔ ∃ rest, path = '/' :: rest ∧ joins.endsBefore rest := by
  cases path with
  | nil => simp [hasSlashPrefix]
  | cons c rest => simp [hasSlashPrefix]

/-- **What `resolve` gives.** -/
theorem resolve_spec (joins : Joins) (layout : StorageLayout) (path : List Char) :
    (IsTurnedAway joins path ∧ layout.resolve joins path = .error .invalidRelativePath) ∨
      (¬ IsTurnedAway joins path ∧
        layout.resolve joins path = .ok (layout.rootURL.appending path)) := by
  unfold StorageLayout.resolve IsTurnedAway
  rw [← hasSlashPrefix_iff, ← split_contains_iff, ← Bool.or_eq_true]
  split
  · next turned => exact .inl ⟨turned, rfl⟩
  · next passed => exact .inr ⟨passed, rfl⟩

/-- A name of ASCII that is longer than each of these names in its canonical form. -/
theorem exists_other_name (form : CanonicalForm) (names : List (List Char)) :
    ∃ name : List Char, '/' ∉ name ∧ IsEntry name ∧
      ∀ other ∈ names, form.decomposed other ≠ form.decomposed name := by
  have bounded : ∃ bound, ∀ other ∈ names, (form.decomposed other).length ≤ bound := by
    induction names with
    | nil => exact ⟨0, by simp⟩
    | cons first rest ih =>
      obtain ⟨bound, below⟩ := ih
      refine ⟨max (form.decomposed first).length bound, fun other member => ?_⟩
      rcases List.mem_cons.mp member with rfl | later
      · exact Nat.le_max_left _ _
      · exact Nat.le_trans (below other later) (Nat.le_max_right _ _)
  obtain ⟨bound, below⟩ := bounded
  have length : (List.replicate (bound + 3) 'a').length = bound + 3 := List.length_replicate
  have same : form.decomposed (List.replicate (bound + 3) 'a') = List.replicate (bound + 3) 'a' :=
    form.decomposed_ascii _ fun c member => by
      rw [List.eq_of_mem_replicate member]
      decide
  refine ⟨List.replicate (bound + 3) 'a', ?_, ⟨?_, ?_, ?_⟩, ?_⟩
  · intro member
    exact absurd (List.eq_of_mem_replicate member) (by decide)
  · intro equal
    simp [equal] at length
  · intro equal
    simp [equal] at length
  · intro equal
    simp [equal] at length
  · intro other member equal
    have short := below other member
    rw [equal, same, length] at short
    omega

/-- **Containment.** Below every root the URL of a path is at or below that root, exactly when the
path is turned away or no `..` of it outnumbers the names before it. -/
theorem resolve_contained_iff (path : List Char) :
    (∀ layout url, StorageLayout.resolve joins layout path = .ok url →
        AtOrBelow form layout.rootURL url) ↔
      IsTurnedAway joins path ∨ StaysBelow 0 (pathComponents path) := by
  constructor
  · intro contained
    by_cases below : StaysBelow 0 (pathComponents path)
    · exact .inr below
    · obtain ⟨name, slashless, entry, other⟩ := exists_other_name form (pathComponents path)
      -- A root whose only name is none that the path could come back to.
      let layout : StorageLayout := ⟨⟨[name], by simpa using slashless⟩⟩
      rcases resolve_spec joins layout path with ⟨turned, -⟩ | ⟨-, ok⟩
      · exact .inl turned
      · have root : standardized [name] = [name] :=
          foldl_descend_plain fun only member => (List.mem_singleton.mp member) ▸ entry
        have reached := contained layout _ ok
        unfold AtOrBelow at reached
        rw [show layout.rootURL.components = [name] from rfl, root,
          show (layout.rootURL.appending path).components = [name] ++ pathComponents path from rfl,
          standardized_append, root] at reached
        have top : form.decomposed name ∈
            ((pathComponents path).foldl descend [name]).map form.decomposed :=
          reached.subset List.mem_cons_self
        obtain ⟨found, member, equal⟩ := List.mem_map.mp top
        have leaves : ¬ StaysBelow ([] : List (List Char)).length (pathComponents path) := below
        exact absurd equal (other found (foldl_descend_leaves leaves found member))
  · rintro bounded layout url resolved
    rcases resolve_spec joins layout path with ⟨-, error⟩ | ⟨passed, ok⟩
    · rw [error] at resolved
      cases resolved
    · rw [ok] at resolved
      cases resolved
      have below := bounded.resolve_left passed
      obtain ⟨more, reached⟩ := foldl_descend_below
        (standardized layout.rootURL.components) [] below
      rw [List.append_nil] at reached
      refine ⟨more.map form.decomposed, ?_⟩
      rw [← List.map_append, ← reached]
      exact congrArg _ (standardized_append _).symm

/-- **What `relativePath` gives**: the names below the root, joined. -/
theorem relativePath_spec (form : CanonicalForm) (layout : StorageLayout) (url : FileURL) :
    (AtOrBelow form layout.rootURL url ∧ layout.relativePath form url =
        .ok (['/'].intercalate ((standardized url.components).drop
          (standardized layout.rootURL.components).length))) ∨
      (¬ AtOrBelow form layout.rootURL url ∧
        layout.relativePath form url = .error .outsideManagedStorage) := by
  have guard : ((layout.rootURL.standardizedComponents.map form.decomposed).isPrefixOf
      (url.standardizedComponents.map form.decomposed)) = true ↔
        AtOrBelow form layout.rootURL url := by
    unfold FileURL.standardizedComponents AtOrBelow
    rw [List.isPrefixOf_iff_prefix, List.map_cons, List.map_cons, List.cons_prefix_cons]
    exact and_iff_right rfl
  unfold StorageLayout.relativePath
  dsimp only
  by_cases below : AtOrBelow form layout.rootURL url
  · rw [if_pos (guard.mpr below)]
    exact .inl ⟨below, rfl⟩
  · rw [if_neg (fun found => below (guard.mp found))]
    exact .inr ⟨below, rfl⟩

/-- Joined names come apart again. -/
theorem pathComponents_intercalate (names : List (List Char)) (nonempty : names ≠ [])
    (slashless : ∀ name ∈ names, '/' ∉ name) :
    pathComponents (['/'].intercalate names) = names := by
  induction names with
  | nil => exact absurd rfl nonempty
  | cons name rest ih =>
    have here := slashless name List.mem_cons_self
    cases rest with
    | nil => simpa using pathComponents_of_name here
    | cons next others =>
      have joined : ['/'].intercalate (name :: next :: others) =
          name ++ '/' :: ['/'].intercalate (next :: others) := by
        simp [List.intercalate]
      rw [joined, pathComponents_append here,
        ih (by simp) fun other member => slashless other (List.mem_cons_of_mem name member)]

/-- Names, joined and taken apart, lead where they led. -/
theorem foldl_descend_intercalate {names directory : List (List Char)}
    (slashless : ∀ name ∈ names, '/' ∉ name) (entries : ∀ name ∈ names, IsEntry name) :
    (pathComponents (['/'].intercalate names)).foldl descend directory = directory ++ names := by
  cases names with
  | nil => simp [List.intercalate, pathComponents, descend]
  | cons name rest =>
    rw [pathComponents_intercalate _ (by simp) slashless, foldl_descend_plain entries]

/-- Joined names are not turned away. -/
theorem not_isTurnedAway_intercalate {names : List (List Char)}
    (slashless : ∀ name ∈ names, '/' ∉ name) (entries : ∀ name ∈ names, IsEntry name) :
    ¬ IsTurnedAway joins (['/'].intercalate names) := by
  cases names with
  | nil =>
    rintro (⟨rest, slash, -⟩ | parent)
    · simp [List.intercalate] at slash
    · have member := parent.mem_pathComponents
      simp [List.intercalate, pathComponents] at member
  | cons name rest =>
    have cut := pathComponents_intercalate (name :: rest) (by simp) slashless
    rintro (⟨more, slash, -⟩ | parent)
    · rw [slash] at cut
      have empty : name = [] := (List.cons.inj (cut.symm.trans rfl)).1
      exact (entries name List.mem_cons_self).1 empty
    · have member := parent.mem_pathComponents
      rw [cut] at member
      exact (entries _ member).2.2 rfl

/-- **Round trip.** The relative path of a URL at or below the root resolves to the same file. -/
theorem relativePath_resolves (layout : StorageLayout) (url : FileURL)
    (below : AtOrBelow form layout.rootURL url) :
    ∃ path resolved, layout.relativePath form url = .ok path ∧
      layout.resolve joins path = .ok resolved ∧ SameFile form resolved url := by
  let names := (standardized url.components).drop (standardized layout.rootURL.components).length
  have inside : ∀ name ∈ names, name ∈ standardized url.components := fun _ member =>
    List.mem_of_mem_drop member
  have entries : ∀ name ∈ names, IsEntry name := fun name member =>
    plain_standardized _ name (inside name member)
  have slashless : ∀ name ∈ names, '/' ∉ name := fun name member => by
    rcases mem_foldl_descend (inside name member) with nothing | listed
    · cases nothing
    · exact url.slashless name listed
  rcases relativePath_spec form layout url with ⟨-, relative⟩ | ⟨outside, -⟩
  · rcases resolve_spec joins layout (['/'].intercalate names) with
      ⟨turned, -⟩ | ⟨-, resolved⟩
    · exact absurd turned (not_isTurnedAway_intercalate slashless entries)
    · refine ⟨_, _, relative, resolved, ?_⟩
      unfold SameFile
      have reached : standardized (layout.rootURL.appending (['/'].intercalate names)).components =
          standardized layout.rootURL.components ++ names := by
        rw [← foldl_descend_intercalate slashless entries]
        exact standardized_append _
      rw [reached, List.map_append]
      obtain ⟨more, whole⟩ := below
      have length : (standardized layout.rootURL.components).length =
          ((standardized layout.rootURL.components).map form.decomposed).length := by simp
      rw [List.map_drop, length, ← whole, List.drop_left]
  · exact absurd below outside

end Containment

/-- **Managed paths.** A path resolves to nothing outside the root, whatever the root, exactly when
it is turned away or none of its `..`, cut at every slash, outnumbers the names before it. URLs at
or below the root have a relative path that resolves to the same file, and no others have one. -/
theorem managed_paths (joins : Joins) (form : CanonicalForm) :
    (∀ path, (∀ layout url, StorageLayout.resolve joins layout path = .ok url →
        AtOrBelow form layout.rootURL url) ↔
      IsTurnedAway joins path ∨ StaysBelow 0 (pathComponents path)) ∧
    (∀ (layout : StorageLayout) url, AtOrBelow form layout.rootURL url →
      ∃ path resolved, layout.relativePath form url = .ok path ∧
        layout.resolve joins path = .ok resolved ∧ SameFile form resolved url) ∧
    (∀ (layout : StorageLayout) url, ¬ AtOrBelow form layout.rootURL url →
      layout.relativePath form url = .error .outsideManagedStorage) := by
  refine ⟨resolve_contained_iff, relativePath_resolves, fun layout url outside => ?_⟩
  rcases relativePath_spec form layout url with ⟨below, -⟩ | ⟨-, thrown⟩
  · exact absurd below outside
  · exact thrown

/-- No two strings are equivalent. -/
def CanonicalForm.plain : CanonicalForm where
  decomposed text := text
  decomposed_ascii _ _ := rfl

/-- A `..` before a slash with an accent on it is not seen. -/
theorem accented_slash_escapes :
    let layout : StorageLayout := ⟨⟨[['r']], by decide⟩⟩
    ∃ url, layout.resolve .acute ['.', '.', '/', '\u0301'] = .ok url ∧
      ¬ AtOrBelow .plain layout.rootURL url := by
  intro layout
  rcases resolve_spec .acute layout ['.', '.', '/', '\u0301'] with
    ⟨turned, -⟩ | ⟨-, resolved⟩
  · exfalso
    rcases turned with ⟨rest, slash, -⟩ | parent
    · cases slash
    · rw [← split_contains_iff] at parent
      revert parent
      decide +kernel
  · refine ⟨_, resolved, ?_⟩
    rintro ⟨more, whole⟩
    exact absurd (List.cons.inj whole).1 (by decide)

end SimpleVM.Storage
