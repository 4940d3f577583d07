import Mathlib.Data.List.Basic
import Mathlib.Data.List.Infix

/-!
# Lexical paths

A path as it is after cleaning: no empty element, no `.`, and `..` only at the front of a path
that is not rooted.  `clean` reads a text, `Path.text` writes it, and `join` is the cleaned text of
two texts with a slash between them.

A system looks a text up element by element, each in a directory that the elements before it lead
to (`visited`), and comes to a location (`locate`).  A cleaned text leads to where the text leads
through no other directories (`clean_spec`), and a name that is joined to a text is looked up there
(`locate_join`, `visited_join`).
-/

namespace Diego.LexicalPath

open List

abbrev Text := List UInt8

def slash : UInt8 := 47

def dot : Text := [46]

def dotDot : Text := [46, 46]

/-- An element of a text that names an entry of a directory. -/
structure IsName (name : Text) : Prop where
  ne_nil : name ≠ []
  ne_dot : name ≠ dot
  ne_dotDot : name ≠ dotDot
  no_slash : slash ∉ name

instance decidableIsName (name : Text) : Decidable (IsName name) :=
  decidable_of_iff (name ≠ [] ∧ name ≠ dot ∧ name ≠ dotDot ∧ slash ∉ name)
    ⟨fun ⟨hnil, hdot, hdotDot, hslash⟩ => ⟨hnil, hdot, hdotDot, hslash⟩,
      fun h => ⟨h.ne_nil, h.ne_dot, h.ne_dotDot, h.no_slash⟩⟩

@[ext]
structure Path where
  rooted : Bool
  /-- The number of `..` at the front. -/
  up : Nat
  names : List Text
  rooted_up : rooted = true → up = 0
  isName : ∀ name ∈ names, IsName name
  deriving DecidableEq

namespace Path

/-- The path `/`. -/
def root : Path :=
  { rooted := true, up := 0, names := [], rooted_up := fun _ => rfl,
    isName := fun _ h => absurd h List.not_mem_nil }

/-- The path `.`. -/
def here : Path :=
  { rooted := false, up := 0, names := [], rooted_up := fun _ => rfl,
    isName := fun _ h => absurd h List.not_mem_nil }

def child (p : Path) (name : Text) (h : IsName name) : Path :=
  { p with
    names := p.names ++ [name]
    isName := fun _ hmem => (List.mem_append.mp hmem).elim (p.isName _) fun hname =>
      List.mem_singleton.mp hname ▸ h }

/-- What an element `..` leads to. -/
def parent (p : Path) : Path :=
  if p.names ≠ [] then
    { p with
      names := p.names.dropLast
      isName := fun name hmem => p.isName name (List.mem_of_mem_dropLast hmem) }
  else if h : p.rooted = true then p
  else { p with up := p.up + 1, rooted_up := fun hrooted => absurd hrooted h }

/-- What one element of a text leads to; an empty one and `.` lead nowhere. -/
def push (p : Path) (element : Text) : Path :=
  if h : IsName element then p.child element h
  else if element = dotDot then p.parent
  else p

/-- `filepath.Clean`. -/
def clean (text : Text) : Path :=
  (text.splitOn slash).foldl push (if text.head? = some slash then root else here)

def text (p : Path) : Text :=
  if p.rooted then slash :: [slash].intercalate p.names
  else if p.up = 0 ∧ p.names = [] then dot
  else [slash].intercalate (List.replicate p.up dotDot ++ p.names)

/-- The path is `t` or below it. -/
structure Within (t p : Path) : Prop where
  rooted : p.rooted = t.rooted
  up : p.up = t.up
  names : t.names <+: p.names

instance decidableWithin (t p : Path) : Decidable (Within t p) :=
  decidable_of_iff (p.rooted = t.rooted ∧ p.up = t.up ∧ t.names <+: p.names)
    ⟨fun ⟨hrooted, hup, hnames⟩ => ⟨hrooted, hup, hnames⟩, fun h => ⟨h.rooted, h.up, h.names⟩⟩

end Path

/-- `filepath.Join` of two texts; empty texts at the front are left out. -/
def join (path name : Text) : Text :=
  if path ≠ [] then (Path.clean (path ++ slash :: name)).text
  else if name ≠ [] then (Path.clean name).text
  else []

/-! ## Looking up a text -/

/-- What an element leads to from a directory. -/
def follow (directory : List Text) (element : Text) : List Text :=
  if IsName element then directory ++ [element]
  else if element = dotDot then directory.dropLast
  else directory

/-- The directories in which elements are looked up one by one. -/
def visits (directory : List Text) : List Text → List (List Text)
  | [] => []
  | element :: elements =>
    if element = [] then visits directory elements
    else directory :: visits (follow directory element) elements

/-- The directory in which the first element of a text is looked up. -/
def start (cwd : List Text) (text : Text) : List Text :=
  if text.head? = some slash then [] else cwd

/-- The location that a text leads to from a working directory. -/
def locate (cwd : List Text) (text : Text) : List Text :=
  (text.splitOn slash).foldl follow (start cwd text)

def visited (cwd : List Text) (text : Text) : List (List Text) :=
  visits (start cwd text) (text.splitOn slash)

/-- The text ends with a slash, and so with an empty element. -/
def slashed (text : Text) : Bool :=
  decide ((text.splitOn slash).getLast? = some [])

namespace Path

def elements (p : Path) : List Text :=
  List.replicate p.up dotDot ++ p.names

def start (cwd : List Text) (p : Path) : List Text :=
  if p.rooted then [] else cwd

/-- The location that the elements of a path lead to. -/
def locate (cwd : List Text) (p : Path) : List Text :=
  p.elements.foldl follow (p.start cwd)

def visited (cwd : List Text) (p : Path) : List (List Text) :=
  visits (p.start cwd) p.elements

end Path

open LexicalPath.Path (root here push clean Within)

variable {p : Path} {path name element text : Text} {elements cwd directory : List Text}

theorem Path.Within.refl : Within p p :=
  ⟨rfl, rfl, prefix_rfl⟩

/-! ## One element -/

theorem follow_of_isName (h : IsName element) : follow directory element = directory ++ [element] :=
  if_pos h

theorem follow_dotDot : follow directory dotDot = directory.dropLast := by
  rw [follow, if_neg (fun h => h.ne_dotDot rfl), if_pos rfl]

theorem visits_append {more : List Text} :
    visits directory (elements ++ more) =
      visits directory elements ++ visits (elements.foldl follow directory) more := by
  induction elements generalizing directory with
  | nil => rfl
  | cons first elements ih =>
    rw [cons_append, visits, visits, foldl_cons, ih, ih]
    split
    · rename_i hempty
      have hstay : follow directory first = directory := by
        rw [hempty]
        rfl
      rw [hstay]
    · rfl

theorem elements_child (h : IsName name) : (p.child name h).elements = p.elements ++ [name] :=
  (append_assoc _ p.names [name]).symm

theorem locate_child (h : IsName name) : (p.child name h).locate cwd = p.locate cwd ++ [name] := by
  rw [Path.locate, elements_child, foldl_append, foldl_cons, follow_of_isName h]
  rfl

theorem visited_child (h : IsName name) :
    (p.child name h).visited cwd = p.visited cwd ++ [p.locate cwd] := by
  rw [Path.visited, elements_child, visits_append]
  exact congrArg _ (if_neg h.ne_nil)

/-- A path with names is an entry of its parent. -/
theorem eq_child_parent (h : p.names ≠ []) : ∃ name hname, p = p.parent.child name hname := by
  have hmem := getLast_mem h
  refine ⟨p.names.getLast h, p.isName _ hmem, ?_⟩
  rw [Path.parent, if_pos h]
  ext1
  · rfl
  · rfl
  · exact (dropLast_append_getLast h).symm

theorem push_of_isName (h : IsName element) : p.push element = p.child element h := by
  rw [push, dif_pos h]

theorem push_dotDot : p.push dotDot = p.parent := by
  rw [push, dif_neg (fun h => h.ne_dotDot rfl), if_pos rfl]

theorem push_of_not_isName (h : ¬ IsName element) (hne : element ≠ dotDot) :
    p.push element = p := by
  rw [push, dif_neg h, if_neg hne]

theorem parent_spec :
    p.parent.locate cwd = (p.locate cwd).dropLast ∧
      p.parent.visited cwd ⊆ p.visited cwd ++ [p.locate cwd] := by
  by_cases hnames : p.names = []
  · cases hrooted : p.rooted with
    | true =>
      have hparent : p.parent = p := by
        rw [Path.parent, if_neg (not_not_intro hnames), dif_pos hrooted]
      have hroot : p.locate cwd = [] := by
        simp [Path.locate, Path.elements, Path.start, hnames, hrooted, p.rooted_up hrooted]
      rw [hparent, hroot]
      exact ⟨rfl, subset_append_left _ _⟩
    | false =>
      have helements : p.parent.elements = p.elements ++ [dotDot] := by
        simp [Path.parent, Path.elements, hnames, hrooted, replicate_succ']
      have hstart : p.parent.start cwd = p.start cwd := by
        simp [Path.parent, Path.start, hnames, hrooted]
      constructor
      · rw [Path.locate, helements, hstart, foldl_append, foldl_cons, follow_dotDot]
        rfl
      · rw [Path.visited, helements, hstart, visits_append]
        exact Subset.refl _
  · obtain ⟨name, hname, heq⟩ := eq_child_parent hnames
    have hlocate := congrArg (Path.locate cwd) heq
    have hvisited := congrArg (Path.visited cwd) heq
    rw [locate_child] at hlocate
    rw [visited_child] at hvisited
    rw [hlocate, hvisited, dropLast_concat, append_assoc]
    exact ⟨rfl, subset_append_left _ _⟩

/-- An element leads from a path to where it leads from the location of the path. -/
theorem push_spec :
    (p.push element).locate cwd = follow (p.locate cwd) element ∧
      (p.push element).visited cwd ⊆ p.visited cwd ++ visits (p.locate cwd) [element] := by
  by_cases hname : IsName element
  · rw [push_of_isName hname, locate_child, visited_child, follow_of_isName hname, visits,
      if_neg hname.ne_nil]
    exact ⟨rfl, Subset.refl _⟩
  · by_cases hdotDot : element = dotDot
    · subst hdotDot
      rw [push_dotDot, follow_dotDot]
      exact parent_spec
    · rw [push_of_not_isName hname hdotDot, follow, if_neg hname, if_neg hdotDot]
      exact ⟨rfl, subset_append_left _ _⟩

/-! ## All elements -/

theorem foldl_push_spec :
    (elements.foldl push p).locate cwd = elements.foldl follow (p.locate cwd) ∧
      (elements.foldl push p).visited cwd ⊆
        p.visited cwd ++ visits (p.locate cwd) elements := by
  induction elements generalizing p with
  | nil => exact ⟨rfl, subset_append_left _ _⟩
  | cons element elements ih =>
    have hvisits : visits (p.locate cwd) ([element] ++ elements) = _ := visits_append
    obtain ⟨hlocate, hvisited⟩ : _ ∧ (p.push element).visited cwd ⊆ _ := push_spec
    obtain ⟨hlocate', hvisited'⟩ : ((elements.foldl push (p.push element)).locate cwd = _) ∧ _ := ih
    rw [hlocate] at hlocate' hvisited'
    refine ⟨hlocate', Subset.trans hvisited' ?_⟩
    rw [← singleton_append, hvisits, ← append_assoc]
    exact append_subset.mpr ⟨Subset.trans hvisited (subset_append_left _ _),
      subset_append_right _ _⟩

/-- **A cleaned text leads to where the text leads**, through directories that the text leads
through. -/
theorem clean_spec :
    (clean text).locate cwd = locate cwd text ∧ (clean text).visited cwd ⊆ visited cwd text := by
  unfold clean locate visited start
  split
  · exact foldl_push_spec
  · exact foldl_push_spec

/-! ## A name that is joined -/

theorem clean_append (hpath : path ≠ []) (h : IsName name) :
    clean (path ++ slash :: name) = (clean path).child name h := by
  rw [clean, splitOn_append_cons_self, splitOn_eq_singleton h.no_slash, foldl_append, foldl_cons,
    foldl_nil, push_of_isName, head?_append_of_ne_nil _ hpath]
  rfl

theorem join_eq_text (hpath : path ≠ []) (h : IsName name) :
    join path name = ((clean path).child name h).text := by
  rw [join, if_pos hpath, clean_append hpath h]

theorem head?_intercalate {elements : List Text} (hslash : ∀ e ∈ elements, slash ∉ e)
    (hne : ∀ e ∈ elements, e ≠ []) : ([slash].intercalate elements).head? ≠ some slash := by
  cases elements with
  | nil => simp
  | cons first rest =>
    have hfirst : slash ∉ first := hslash first mem_cons_self
    obtain ⟨c, tail, rfl⟩ := exists_cons_of_ne_nil (hne first mem_cons_self)
    have hc : c ≠ slash := fun heq => hfirst (heq ▸ mem_cons_self)
    cases rest with
    | nil => simpa using hc
    | cons second rest => simpa [intercalate_cons_cons] using hc

theorem mem_elements {e : Text} (h : e ∈ p.elements) : slash ∉ e ∧ e ≠ [] := by
  rcases mem_append.mp h with hup | hname
  · rw [eq_of_mem_replicate hup]
    decide
  · exact ⟨(p.isName e hname).no_slash, (p.isName e hname).ne_nil⟩

/-- The text of a path with names is read as its elements. -/
theorem text_spec (h : p.names ≠ []) :
    (∀ cwd, start cwd p.text = p.start cwd) ∧
      (p.text.splitOn slash = p.elements ∨ p.text.splitOn slash = [] :: p.elements) := by
  have hsplit : ([slash].intercalate p.elements).splitOn slash = p.elements :=
    splitOn_intercalate slash (fun e he => (mem_elements he).1)
      (append_ne_nil_of_right_ne_nil _ h)
  cases hrooted : p.rooted with
  | true =>
    have htext : p.text = slash :: [slash].intercalate p.elements := by
      rw [Path.text, if_pos hrooted, Path.elements, p.rooted_up hrooted]
      rfl
    rw [htext, splitOn_cons_eq_if_modifyHead, if_pos (by decide), hsplit]
    refine ⟨fun cwd => ?_, .inr rfl⟩
    rw [Path.start, hrooted]
    rfl
  | false =>
    have htext : p.text = [slash].intercalate p.elements := by
      rw [Path.text, hrooted, if_neg Bool.false_ne_true, if_neg fun hdot => h hdot.2]
      rfl
    have hhead : p.text.head? ≠ some slash :=
      htext ▸ head?_intercalate (fun e he => (mem_elements he).1) fun e he => (mem_elements he).2
    refine ⟨fun cwd => ?_, .inl (htext ▸ hsplit)⟩
    rw [start, if_neg hhead, Path.start, hrooted]
    rfl

theorem locate_text (h : p.names ≠ []) : locate cwd p.text = p.locate cwd := by
  obtain ⟨hstart, hsplit | hsplit⟩ := text_spec h
  all_goals
    rw [locate, hstart, hsplit]
    rfl

theorem visited_text (h : p.names ≠ []) : visited cwd p.text = p.visited cwd := by
  obtain ⟨hstart, hsplit | hsplit⟩ := text_spec h
  all_goals
    rw [visited, hstart, hsplit]
    rfl

theorem slashed_text (h : p.names ≠ []) : slashed p.text = false := by
  have hlast : p.elements.getLast? ≠ some [] := fun hlast =>
    (mem_elements (mem_of_getLast? hlast)).2 rfl
  have hne : p.elements ≠ [] := append_ne_nil_of_right_ne_nil _ h
  obtain ⟨-, hsplit | hsplit⟩ := text_spec h
  · rw [slashed, hsplit, decide_eq_false hlast]
  · rw [slashed, hsplit, getLast?_cons_of_ne_nil hne, decide_eq_false hlast]

theorem names_child_ne_nil (h : IsName name) : (p.child name h).names ≠ [] :=
  append_ne_nil_of_right_ne_nil _ (cons_ne_nil name [])

theorem locate_join (hpath : path ≠ []) (h : IsName name) :
    locate cwd (join path name) = locate cwd path ++ [name] := by
  rw [join_eq_text hpath h, locate_text (names_child_ne_nil h), locate_child, clean_spec.1]

/-- **A name that is joined to a text is looked up where the text leads to.** -/
theorem visited_join (hpath : path ≠ []) (h : IsName name) :
    visited cwd (join path name) ⊆ visited cwd path ++ [locate cwd path] := by
  rw [join_eq_text hpath h, visited_text (names_child_ne_nil h), visited_child, clean_spec.1]
  exact append_subset.mpr ⟨Subset.trans clean_spec.2 (subset_append_left _ _),
    subset_append_right _ _⟩

theorem slashed_join (hpath : path ≠ []) (h : IsName name) : slashed (join path name) = false := by
  rw [join_eq_text hpath h, slashed_text (names_child_ne_nil h)]

theorem join_ne_nil (hpath : path ≠ []) (h : IsName name) : join path name ≠ [] := by
  intro hnil
  have hslashed := slashed_join hpath h
  rw [hnil] at hslashed
  exact absurd hslashed (by decide)

end Diego.LexicalPath
