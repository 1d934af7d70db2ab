import Mathlib.Data.List.Induction
import Mathlib.Data.List.Nodup
import Vetting.Rule.Wiring

/-!
# Books of listed values

What the calls of a schema say about listed values can be taken down as notes, and what becomes of the values
can be kept in a book.  The book has one page for each kind of list.  Values are entered on the page of their
kind; invalid ones are also struck from the pages of valid and of allowed values, as far as those stand there
and by the relations that are known so far; and a note may make another relation known for good.

An assembly takes the notes of valid and of allowed values before all others.  What the book then says can be
told from the notes in any order: a value stands on its page unless it is struck (`Book.lists_arranged`), the
relations are those of all notes (`Book.relates_arranged`), and the pages stand in the order of the first notes
of their kinds (`Book.find?_kinds_arranged`).
-/

namespace Vetting

/-- What a call says about listed values. -/
inductive Note where
  /-- The values are listed. -/
  | listing (kind : Listing) (values : List Value)
  /-- The case of letters does not matter in any list. -/
  | insensitive

/-- Notes in the order of the calls. -/
abbrev Notes := List Note

namespace Note

/-- The note is of valid or of allowed values. -/
def isEarly : Note → Bool
  | listing kind _ => kind ≠ .invalid
  | insensitive => false

/-- The kind of list that the note is about. -/
def kind? : Note → Option Listing
  | listing kind _ => some kind
  | insensitive => none

/-- The values of that kind in the note. -/
def values (kind : Listing) : Note → List Value
  | listing other values => if other = kind then values else []
  | insensitive => []

end Note

namespace Notes

/-- The values that are listed as of that kind. -/
def listed (notes : Notes) (kind : Listing) : List Value :=
  notes.flatMap (Note.values kind)

/-- After these notes a candidate counts as the listed value. -/
def Matches (notes : Notes) (listed candidate : Value) : Prop :=
  listed.same candidate = true ∨ Note.insensitive ∈ notes ∧ sameIgnoringCase listed candidate = true

/-- A note of invalid values strikes the value, by what the notes before it make known. -/
def Struck (notes : Notes) (listed : Value) : Prop :=
  ∃ before values after, notes = before ++ .listing .invalid values :: after ∧
    ∃ candidate ∈ values, Matches before listed candidate

/-- Of the notes of valid and of allowed values the first one is of allowed values. -/
def AllowedFirst (notes : Notes) : Prop :=
  ∃ values, notes.find? Note.isEarly = some (.listing .allow values)

/-- The value is listed as a valid one, or as an allowed one where that is noted first. -/
def Eligible (notes : Notes) (listed : Value) : Prop :=
  listed ∈ notes.listed .valid ∨ notes.AllowedFirst ∧ listed ∈ notes.listed .allow

/-- The notes in the order in which an assembly takes them. -/
def arranged (notes : Notes) : Notes :=
  notes.filter Note.isEarly ++ notes.filter fun note => !note.isEarly

variable {notes : Notes} {kind : Listing} {listed candidate : Value}

/-- A value is listed under a kind if some note of that kind has it. -/
theorem mem_listed : listed ∈ notes.listed kind ↔ ∃ values, .listing kind values ∈ notes ∧ listed ∈ values := by
  unfold Notes.listed
  rw [List.mem_flatMap]
  constructor
  · rintro ⟨note, member, inside⟩
    cases note with
    | listing other values =>
        rw [Note.values] at inside
        split at inside
        next same => exact ⟨values, same ▸ member, inside⟩
        · cases inside
    | insensitive => cases inside
  · rintro ⟨values, member, inside⟩
    exact ⟨_, member, by rwa [Note.values, if_pos rfl]⟩

/-- One more note makes a candidate match if it did before, or if the note lets case be ignored and it matches then.
-/
theorem matches_concat (note : Note) : Matches (notes ++ [note]) listed candidate ↔
    Matches notes listed candidate ∨ note = .insensitive ∧ sameIgnoringCase listed candidate = true := by
  simp only [Matches, List.mem_append, List.mem_singleton, or_and_right, or_assoc, eq_comm]

/-- Notes that hold the same notes make the same relations known. -/
theorem matches_congr {others : Notes} (same : Note.insensitive ∈ notes ↔ .insensitive ∈ others) :
    Matches notes listed candidate ↔ Matches others listed candidate := by
  rw [Matches, Matches, same]

/-- No notes strike nothing. -/
theorem struck_nil : ¬ Struck [] listed := by
  rintro ⟨before, values, after, split, -⟩
  exact absurd split.symm (by simp)

/-- What one more note strikes. -/
theorem struck_concat (note : Note) : Struck (notes ++ [note]) listed ↔
    Struck notes listed ∨ ∃ values, note = .listing .invalid values ∧
      ∃ candidate ∈ values, Matches notes listed candidate := by
  constructor
  · rintro ⟨before, values, after, split, found⟩
    rcases List.eq_nil_or_concat after with rfl | ⟨further, last, rfl⟩
    · obtain ⟨rfl, same⟩ := List.append_inj' split rfl
      exact .inr ⟨values, List.singleton_inj.mp same, found⟩
    · rw [List.concat_eq_append, ← List.cons_append, ← List.append_assoc] at split
      obtain ⟨rfl, -⟩ := List.append_inj' split rfl
      exact .inl ⟨before, values, further, rfl, found⟩
  · rintro (⟨before, values, after, rfl, found⟩ | ⟨values, rfl, found⟩)
    · exact ⟨before, values, after ++ [note], by simp, found⟩
    · exact ⟨notes, values, [], rfl, found⟩

/-- Arranging notes neither adds nor loses any. -/
theorem mem_arranged {note : Note} : note ∈ notes.arranged ↔ note ∈ notes := by
  unfold arranged
  rw [List.mem_append, List.mem_filter, List.mem_filter, ← and_or_left]
  exact and_iff_left (by cases note.isEarly <;> simp)

/-- Arranging the notes changes nothing about what is listed. -/
theorem mem_listed_arranged : listed ∈ notes.arranged.listed kind ↔ listed ∈ notes.listed kind := by
  simp only [mem_listed, mem_arranged]

/-- Early notes strike nothing. -/
theorem not_struck_of_early (early : ∀ note ∈ notes, note.isEarly = true) : ¬ Struck notes listed := by
  rintro ⟨before, values, after, rfl, -⟩
  exact absurd (early _ (List.mem_append_right _ List.mem_cons_self)) (by simp [Note.isEarly])

/-- Only notes of invalid values and of relations matter for what is struck. -/
theorem struck_filter : Struck (notes.filter fun note => !note.isEarly) listed ↔ Struck notes listed := by
  induction notes using List.reverseRecOn with
  | nil => exact Iff.rfl
  | append_singleton notes note ih =>
      rw [List.filter_append, struck_concat, ← ih]
      cases note with
      | insensitive => simp [Note.isEarly, struck_concat]
      | listing kind values =>
          have known : ∀ candidate, Matches (notes.filter fun note => !note.isEarly) listed candidate ↔
              Matches notes listed candidate :=
            fun candidate => matches_congr (by simp [List.mem_filter, Note.isEarly])
          by_cases invalid : kind = .invalid
          · rw [List.filter_cons_of_pos (by simp [Note.isEarly, invalid]), List.filter_nil, struck_concat]
            simp only [known]
          · simp [Note.isEarly, invalid]

/-- Arranging the notes changes nothing about what is struck. -/
theorem struck_arranged : Struck notes.arranged listed ↔ Struck notes listed := by
  have late : notes.arranged.filter (fun note => !note.isEarly) = notes.filter fun note => !note.isEarly := by
    simp [arranged, List.filter_append, List.filter_filter]
  rw [← struck_filter, late, struck_filter]

/-- Arranging the notes changes nothing about which one of valid or of allowed values is the first. -/
theorem find?_arranged : notes.arranged.find? Note.isEarly = notes.find? Note.isEarly := by
  have later : (notes.filter fun note => !note.isEarly).find? Note.isEarly = none := by
    simp [List.find?_eq_none]
  rw [arranged, List.find?_append, later, Option.or_none, ← List.head?_filter, ← List.head?_filter,
    List.filter_filter]
  simp only [Bool.and_self]

end Notes

/-! ## Writing a book -/

/-- Lists of values by their kinds, and the relations by which a value counts as listed. -/
structure Book where
  pages : List (Listing × List Value)
  relations : List Relation

namespace Book

/-- The book before any note. -/
def empty : Book :=
  ⟨[], [Value.same]⟩

/-- A relation of the book relates the two values. -/
def relates (book : Book) (listed candidate : Value) : Bool :=
  book.relations.any fun relation => relation listed candidate

/-- The kinds of the pages. -/
def kinds (book : Book) : List Listing :=
  book.pages.map Prod.fst

/-- The value stands on a page of that kind. -/
def Lists (book : Book) (kind : Listing) (value : Value) : Prop :=
  ∃ values, (kind, values) ∈ book.pages ∧ value ∈ values

/-- Strikes the valid and allowed values that are related to one of the given ones. -/
def strike (book : Book) (values : List Value) : Book :=
  { book with pages := book.pages.map fun (kind, listed) =>
      (kind, if kind = .invalid then listed
        else listed.filter fun value => !values.any fun candidate => book.relates value candidate) }

/-- The pages with further values on the first one of their kind, or on a new last one. -/
def entered (kind : Listing) (values : List Value) : List (Listing × List Value) → List (Listing × List Value)
  | [] => [(kind, values)]
  | (other, listed) :: rest =>
    if other = kind then (other, listed ++ values) :: rest else (other, listed) :: entered kind values rest

/-- Enters values in the book. -/
def enter (book : Book) (kind : Listing) (values : List Value) : Book :=
  { book with pages := entered kind values book.pages }

/-- Takes a note into account. -/
def write (book : Book) : Note → Book
  | .listing kind values => (if kind = .invalid then book.strike values else book).enter kind values
  | .insensitive => { book with relations := book.relations ++ [sameIgnoringCase] }

/-- The book after some notes. -/
def ofNotes (notes : Notes) : Book :=
  notes.foldl write empty

variable {book : Book} {notes : Notes} {kind other : Listing} {values : List Value} {value candidate : Value}

/-- The last note is written last. -/
theorem ofNotes_concat (notes : Notes) (note : Note) : ofNotes (notes ++ [note]) = (ofNotes notes).write note :=
  List.foldl_concat ..

/-! ### What a note changes -/

/-- After values have been struck, those are listed that were before and are none of them, or are invalid ones. -/
theorem lists_strike : (book.strike values).Lists kind value ↔
    book.Lists kind value ∧ (kind = .invalid ∨ ∀ candidate ∈ values, book.relates value candidate = false) := by
  simp only [Lists, strike, List.mem_map, Prod.exists, Prod.mk.injEq]
  constructor
  · rintro ⟨_, ⟨_, listed, page, rfl, rfl⟩, inside⟩
    split at inside
    next invalid => exact ⟨⟨listed, page, inside⟩, .inl invalid⟩
    next valid =>
      obtain ⟨stood, kept⟩ := List.mem_filter.mp inside
      exact ⟨⟨listed, page, stood⟩, .inr (by simpa using kept)⟩
  · rintro ⟨⟨listed, page, inside⟩, kept⟩
    refine ⟨_, ⟨kind, listed, page, rfl, rfl⟩, ?_⟩
    split
    · exact inside
    next valid =>
      have safe := kept.resolve_left valid
      exact List.mem_filter.mpr ⟨inside, by simpa using safe⟩

/-- The values of a page are those that it had, and the new ones if it is of their kind. -/
theorem exists_mem_entered {pages : List (Listing × List Value)} :
    (∃ listed, (other, listed) ∈ entered kind values pages ∧ value ∈ listed) ↔
      (∃ listed, (other, listed) ∈ pages ∧ value ∈ listed) ∨ other = kind ∧ value ∈ values := by
  induction pages with
  | nil => simp [entered, and_assoc]
  | cons page rest ih =>
      obtain ⟨first, listed⟩ := page
      rw [entered]
      split
      next same =>
        subst same
        simp only [List.mem_cons, Prod.mk.injEq, or_and_right, exists_or, and_assoc, exists_and_left,
          exists_eq_left, List.mem_append, and_or_left, or_right_comm]
      next apart =>
        simp only [List.mem_cons, or_and_right, exists_or, ih, or_assoc]

/-- After values have been entered, those are listed that were before, and the new ones under their kind. -/
theorem lists_enter : (book.enter kind values).Lists other value ↔
    book.Lists other value ∨ other = kind ∧ value ∈ values :=
  exists_mem_entered

/-- Striking values leaves all pages there. -/
@[simp] theorem kinds_strike : (book.strike values).kinds = book.kinds := by
  rw [kinds, kinds, strike, List.map_map]
  rfl

/-- A page is there for each kind that has been entered, in the order in which they came first. -/
theorem kinds_entered (pages : List (Listing × List Value)) : (entered kind values pages).map Prod.fst =
    if kind ∈ pages.map Prod.fst then pages.map Prod.fst else pages.map Prod.fst ++ [kind] := by
  induction pages with
  | nil => rfl
  | cons page rest ih =>
      obtain ⟨first, listed⟩ := page
      rw [entered]
      by_cases same : first = kind
      · simp [same]
      · simp only [same, ↓reduceIte, List.map_cons, ih, List.mem_cons, Ne.symm same, false_or]
        rw [apply_ite (List.cons first), List.cons_append]

/-- A kind that is new gets a page of its own, behind the others. -/
theorem entered_of_fresh {pages : List (Listing × List Value)} (fresh : kind ∉ pages.map Prod.fst) :
    entered kind values pages = pages ++ [(kind, values)] := by
  induction pages with
  | nil => rfl
  | cons page rest ih =>
      rw [List.map_cons, List.mem_cons, not_or] at fresh
      rw [entered, if_neg (Ne.symm fresh.1), ih fresh.2, List.cons_append]

/-- Writing values down adds their kind, if it is new. -/
theorem kinds_write_listing : (book.write (.listing kind values)).kinds =
    if kind ∈ book.kinds then book.kinds else book.kinds ++ [kind] := by
  rw [write, enter, kinds, kinds_entered, ← kinds]
  split
  · rw [kinds_strike]
  · rfl

/-- Writing values down does not change what counts as the same. -/
theorem relations_write_listing : (book.write (.listing kind values)).relations = book.relations := by
  rw [write]
  split <;> rfl

/-- What stands in the book after a note. -/
theorem lists_write_listing : (book.write (.listing kind values)).Lists other value ↔
    book.Lists other value ∧
        (kind = .invalid → other ≠ .invalid → ∀ candidate ∈ values, book.relates value candidate = false) ∨
      other = kind ∧ value ∈ values := by
  rw [write, lists_enter]
  refine or_congr ?_ Iff.rfl
  split
  next invalid =>
    rw [lists_strike]
    simp only [invalid, true_implies, ← or_iff_not_imp_left]
  next valid => exact (and_iff_left fun invalid => absurd invalid valid).symm

/-! ### What the notes amount to -/

/-- The book relates what its notes let match. -/
theorem relates_ofNotes : (ofNotes notes).relates value candidate = true ↔ notes.Matches value candidate := by
  induction notes using List.reverseRecOn with
  | nil => simp [ofNotes, empty, relates, Notes.Matches]
  | append_singleton notes note ih =>
      rw [ofNotes_concat, Notes.matches_concat, ← ih]
      cases note with
      | listing kind values => simp [relates, relations_write_listing]
      | insensitive => simp [relates, write]

/-- The book has a page for each kind that has been noted. -/
theorem mem_kinds_ofNotes : kind ∈ (ofNotes notes).kinds ↔ ∃ values, .listing kind values ∈ notes := by
  induction notes using List.reverseRecOn with
  | nil => simp [ofNotes, empty, kinds]
  | append_singleton notes note ih =>
      rw [ofNotes_concat]
      simp only [List.mem_append, List.mem_singleton, exists_or, ← ih]
      cases note with
      | insensitive => simp [write, kinds]
      | listing other values =>
          rw [kinds_write_listing]
          split
          next known => simpa using fun same => same ▸ known
          next => simp [eq_comm]

/-- No kind has two pages. -/
theorem nodup_kinds_ofNotes : (ofNotes notes).kinds.Nodup := by
  induction notes using List.reverseRecOn with
  | nil => exact List.nodup_nil
  | append_singleton notes note ih =>
      rw [ofNotes_concat]
      cases note with
      | insensitive => exact ih
      | listing kind values =>
          rw [kinds_write_listing]
          split
          · exact ih
          next fresh =>
            rw [← List.concat_eq_append]
            exact ih.concat fresh

/-- A further page of a kind that is there already would never be the first one of any sort. -/
theorem find?_kinds_write_listing (sort : Listing → Bool) : (book.write (.listing kind values)).kinds.find? sort =
    (book.kinds.find? sort).or ([kind].find? sort) := by
  rw [kinds_write_listing]
  split
  next known =>
    cases own : sort kind with
    | true =>
        have found : (book.kinds.find? sort).isSome = true := List.find?_isSome.mpr ⟨kind, known, own⟩
        rw [Option.or_of_isSome found]
    | false => rw [List.find?_cons_of_neg (by simp [own]), List.find?_nil, Option.or_none]
  next => exact List.find?_append

/-- Of the pages of valid and of allowed values the first one is of the kind of the first note. -/
theorem find?_kinds_ofNotes : (ofNotes notes).kinds.find? (· ≠ .invalid) =
    (notes.find? Note.isEarly).bind Note.kind? := by
  induction notes using List.reverseRecOn with
  | nil => rfl
  | append_singleton notes note ih =>
      rw [ofNotes_concat, List.find?_append]
      cases note with
      | insensitive =>
          rw [List.find?_cons_of_neg (by simp [Note.isEarly]), List.find?_nil, Option.or_none]
          exact ih
      | listing kind values =>
          rw [find?_kinds_write_listing, ih]
          cases first : notes.find? Note.isEarly with
          | none => by_cases invalid : kind = .invalid <;> simp [Note.isEarly, invalid, Note.kind?]
          | some found =>
              cases found with
              | insensitive => cases List.find?_some first
              | listing other listed => rfl

/-- Invalid values stay where they were entered. -/
theorem lists_invalid_ofNotes : (ofNotes notes).Lists .invalid value ↔ value ∈ notes.listed .invalid := by
  induction notes using List.reverseRecOn with
  | nil => simp [ofNotes, empty, Lists, Notes.listed]
  | append_singleton notes note ih =>
      rw [ofNotes_concat, Notes.listed, List.flatMap_append, List.mem_append, ← Notes.listed, ← ih]
      cases note with
      | insensitive => simp [write, Lists, Note.values]
      | listing kind values =>
          rw [lists_write_listing]
          cases kind <;> simp [Note.values]

/-- Once all valid and allowed values are entered, they stand unless they are struck. -/
theorem lists_ofNotes_append {early late : Notes} (before : ∀ note ∈ early, note.isEarly = true)
    (after : ∀ note ∈ late, note.isEarly = false) (valid : kind ≠ .invalid) :
    (ofNotes (early ++ late)).Lists kind value ↔
      value ∈ Notes.listed early kind ∧ ¬ Notes.Struck (early ++ late) value := by
  have entered : ∀ early : Notes, (∀ note ∈ early, note.isEarly = true) →
      ((ofNotes early).Lists kind value ↔ value ∈ Notes.listed early kind) := by
    intro early before
    induction early using List.reverseRecOn with
    | nil => simp [ofNotes, empty, Lists, Notes.listed]
    | append_singleton early note ih =>
        rw [ofNotes_concat, Notes.listed, List.flatMap_append, List.mem_append, ← Notes.listed,
          ← ih fun note member => before note (List.mem_append_left _ member)]
        have own := before note (List.mem_append_right _ List.mem_cons_self)
        cases note with
        | insensitive => cases own
        | listing other values =>
            have kept : other ≠ .invalid := by simpa [Note.isEarly] using own
            rw [lists_write_listing, and_iff_left fun invalid => absurd invalid kept]
            simp [Note.values, eq_comm]
  induction late using List.reverseRecOn with
  | nil =>
      rw [List.append_nil, entered early before, and_iff_left (Notes.not_struck_of_early before)]
  | append_singleton late note ih =>
      have stood : (ofNotes (early ++ late)).Lists kind value ↔
          value ∈ Notes.listed early kind ∧ ¬ Notes.Struck (early ++ late) value :=
        ih fun note member => after note (List.mem_append_left _ member)
      rw [← List.append_assoc, ofNotes_concat, Notes.struck_concat, not_or, ← and_assoc, ← stood]
      have own := after note (List.mem_append_right _ List.mem_cons_self)
      cases note with
      | insensitive => simp [write, Lists]
      | listing other values =>
          obtain rfl : other = .invalid := by simpa [Note.isEarly] using own
          rw [lists_write_listing]
          simp [valid, ← relates_ofNotes]

/-! ### The book of arranged notes -/

/-- A valid or an allowed value stands on its page unless it is struck, in whatever order the notes are. -/
theorem lists_arranged (valid : kind ≠ .invalid) :
    (ofNotes notes.arranged).Lists kind value ↔ value ∈ notes.listed kind ∧ ¬ notes.Struck value := by
  have early : value ∈ Notes.listed (notes.filter Note.isEarly) kind ↔ value ∈ notes.listed kind := by
    rw [Notes.mem_listed, Notes.mem_listed]
    exact exists_congr fun values => and_congr_left fun _ => by simp [Note.isEarly, valid]
  rw [← Notes.struck_arranged, ← early]
  exact lists_ofNotes_append (fun note member => (List.mem_filter.mp member).2)
    (fun note member => by simpa using (List.mem_filter.mp member).2) valid

/-- Every value that is listed as an invalid one stands on the page of these. -/
theorem lists_invalid_arranged : (ofNotes notes.arranged).Lists .invalid value ↔ value ∈ notes.listed .invalid := by
  rw [lists_invalid_ofNotes, Notes.mem_listed_arranged]

/-- The book of arranged notes relates what the notes let match. -/
theorem relates_arranged :
    (ofNotes notes.arranged).relates value candidate = true ↔ notes.Matches value candidate := by
  rw [relates_ofNotes]
  exact Notes.matches_congr Notes.mem_arranged

/-- The book of arranged notes has a page for each kind that has been noted. -/
theorem mem_kinds_arranged : kind ∈ (ofNotes notes.arranged).kinds ↔ ∃ values, .listing kind values ∈ notes := by
  simp only [mem_kinds_ofNotes, Notes.mem_arranged]

/-- The page of allowed values comes before that of valid ones if the notes do. -/
theorem find?_kinds_arranged :
    (ofNotes notes.arranged).kinds.find? (· ≠ .invalid) = some .allow ↔ notes.AllowedFirst := by
  rw [find?_kinds_ofNotes, Notes.find?_arranged, Option.bind_eq_some_iff]
  constructor
  · rintro ⟨note, first, kind⟩
    cases note with
    | insensitive => cases kind
    | listing other values =>
        obtain rfl := Option.some.inj kind
        exact ⟨values, first⟩
  · rintro ⟨values, first⟩
    exact ⟨_, first, rfl⟩

/-! ### Pages as sets -/

/-- The pages as sets of values with all relations of the book. -/
def sets (book : Book) : List (Listing × ListedValues) :=
  book.pages.map fun (kind, listed) => (kind, ⟨listed, book.relations⟩)

/-- The sets of a book have its kinds. -/
theorem kinds_sets (book : Book) : book.sets.map Prod.fst = book.kinds := by
  rw [sets, List.map_map]
  rfl

/-- Adds values to a set of that kind. -/
def addTo (kind : Listing) (values : List Value) (page : Listing × ListedValues) : Option (Listing × ListedValues) :=
  if page.1 = kind then some (page.1, page.2.add values) else none

/-- Values are entered on the first page of their kind, if there is one. -/
theorem amendFirst?_addTo (book : Book) (kind : Listing) (values : List Value) :
    amendFirst? (addTo kind values) book.sets =
      if kind ∈ book.kinds then some (book.enter kind values).sets else none := by
  obtain ⟨pages, relations⟩ := book
  simp only [sets, kinds, enter]
  induction pages with
  | nil => rfl
  | cons page rest ih =>
      obtain ⟨other, listed⟩ := page
      rw [List.map_cons, amendFirst?, entered]
      by_cases same : other = kind
      · simp [addTo, same, ListedValues.add]
      · simp only [addTo, same, ↓reduceIte, List.map_cons, List.mem_cons, Ne.symm same, false_or, ih]
        by_cases known : kind ∈ rest.map Prod.fst
        · simp only [known, ↓reduceIte, Option.map_some]
        · simp only [known, ↓reduceIte, Option.map_none]

/-- A kind without a page is given one behind all others. -/
theorem sets_enter_of_fresh (fresh : kind ∉ book.kinds) :
    (book.enter kind values).sets = book.sets ++ [(kind, ⟨values, book.relations⟩)] := by
  rw [sets, sets, enter, entered_of_fresh fresh, List.map_append]
  rfl

/-- A value counts as listed if it is related to one that stands in the book. -/
theorem exists_set_contains :
    (∃ set, (kind, set) ∈ book.sets ∧ set.contains candidate = true) ↔
      ∃ value, book.Lists kind value ∧ book.relates value candidate = true := by
  simp only [sets, List.mem_map, Prod.exists, Prod.mk.injEq, Lists, ListedValues.contains, List.any_eq_true]
  constructor
  · rintro ⟨_, ⟨_, listed, page, rfl, rfl⟩, value, inside, related⟩
    exact ⟨value, ⟨listed, page, inside⟩, related⟩
  · rintro ⟨value, ⟨listed, page, inside⟩, related⟩
    exact ⟨_, ⟨kind, listed, page, rfl, rfl⟩, value, inside, related⟩

end Book

end Vetting
