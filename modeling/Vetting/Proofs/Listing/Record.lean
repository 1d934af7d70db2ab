import Vetting.Proofs.Assembly.Views
import Vetting.Proofs.Listing.Book
import Vetting.Proofs.Repetition.Meddling

/-!
# An assembly writes a book

The lists of values among the rules that have been wired are at any time the pages of a book, in their order.
A round with a rule that lists values, or with the one by which the case of letters does not matter, writes the
note of its call (`Book.Records.afterRound`); all other rounds leave every list as it is.  So the lists that come
out of an assembly are the book of the arranged notes (`Instance.pages_assemble`).
-/

namespace Vetting

variable {σ τ : Type}

/-- The list of values that a rule is. -/
def Rule.page? : Rule σ → Option (Listing × ListedValues)
  | listing kind set _ => some (kind, set)
  | _ => none

/-- What a call of the rule with these arguments says about listed values. -/
def Rule.note? (rule : Rule τ) (arguments : Arguments σ) : Option Note :=
  match rule with
  | listing kind _ _ => arguments.values.toOption.map (.listing kind)
  | insensitive => some .insensitive
  | _ => none

namespace Rule

@[simp] theorem page?_map (f : σ → τ) (rule : Rule σ) : (rule.map f).page? = rule.page? := by
  cases rule <;> rfl

/-- What a rule notes down is told by the call that it comes from. -/
theorem note?_unwired (rule : Rule τ) (arguments : Arguments σ) :
    rule.unwired.note? arguments = rule.note? arguments := by
  cases rule <;> rfl

/-- Wiring makes no list of another kind. -/
theorem kind_page?_of_unwired {left : Rule σ} {right : Rule τ} (same : left.unwired = right.unwired) :
    left.page?.map Prod.fst = right.page?.map Prod.fst := by
  have own : ∀ {υ : Type} (rule : Rule υ), rule.unwired.page?.map Prod.fst = rule.page?.map Prod.fst := by
    intro υ rule
    cases rule <;> rfl
  rw [← own left, same, own right]

end Rule

/-- What the call of an instance says about listed values. -/
def Instance.note? (entry : Instance σ) : Option Note :=
  entry.rule.note? entry.arguments

/-- Instances of one call note down the same. -/
theorem Instance.note?_of_call {left right : Instance σ} (same : left.call = right.call) :
    left.note? = right.note? := by
  obtain ⟨unwired, arguments⟩ := Prod.mk.inj same
  rw [note?, note?, ← Rule.note?_unwired, unwired, arguments, Rule.note?_unwired]

/-- The lists of values among some entries. -/
def Instance.pages (entries : List (Instance σ)) : List (Listing × ListedValues) :=
  entries.filterMap fun entry => entry.rule.page?

/-- The pages are those of the rules that have one. -/
theorem Instance.mem_pages {entries : List (Instance σ)} {page : Listing × ListedValues} :
    page ∈ pages entries ↔ ∃ entry ∈ entries, entry.rule.page? = some page :=
  List.mem_filterMap

/-! ## What changes do to a list -/

/-- What the change makes of a list. -/
def Change.onPage : Change σ → Listing × ListedValues → Listing × ListedValues
  | add kind values, (other, set) => (other, if other = kind then set.add values else set)
  | strike kind values, (other, set) => (other, if other = kind then set.remove values else set)
  | relate relation, (other, set) => (other, set.addRelation relation)
  | _, page => page

namespace Instance

/-- A change to a standard rule changes its page accordingly. -/
theorem page?_amend {entry next : Instance σ} (standard : entry.IsStandard) {change : Change σ}
    (made : entry.amend change.amendment = some next) : next.rule.page? = entry.rule.page?.map change.onPage := by
  obtain ⟨rule, arguments⟩ := entry
  obtain ⟨changed, reached, rfl⟩ := Option.map_eq_some_iff.mp made
  cases rule with
  | declared declaration => exact absurd rfl (standard.ne_declared declaration)
  | listing kind set operating =>
      cases change with
      | add other values | strike other values =>
          simp only [Change.amendment, Amendment.listing] at reached
          split at reached
          next same =>
            obtain rfl := Option.some.inj reached
            simp [Rule.page?, Change.onPage, same]
          · cases reached
      | relate relation =>
          obtain rfl := Option.some.inj reached
          rfl
      | _ => cases reached
  | _ => cases change <;> cases reached <;> rfl

/-- A change to a standard rule, or none, is seen in its page. -/
theorem page?_changed {entry : Instance σ} (standard : entry.IsStandard) (change : Change σ) :
    (entry.changed change).rule.page? = entry.rule.page?.map change.onPage := by
  unfold changed
  cases made : entry.amend change.amendment with
  | some next => exact page?_amend standard made
  | none =>
      obtain ⟨rule, arguments⟩ := entry
      cases rule with
      | listing kind set operating =>
          cases change with
          | add other values | strike other values =>
              by_cases same : kind = other
              · simp [amend, Change.amendment, Amendment.listing, same] at made
              · simp [Rule.page?, Change.onPage, same]
          | relate relation => cases made
          | _ => rfl
      | _ => rfl

/-- Pages are changed as the rules are. -/
theorem isView_page? : IsView (fun entry : Instance σ => entry.rule.page?) Change.onPage :=
  fun standard change => page?_changed standard change

/-- After several changes the pages are what these make of them. -/
theorem pages_changedBy {entries : List (Instance σ)} (standard : ∀ entry ∈ entries, entry.IsStandard)
    (changes : List (Change σ)) : pages (entries.map (changedBy changes)) =
      (pages entries).map fun page => changes.foldl (fun page change => change.onPage page) page :=
  isView_page?.filterMap_changedBy standard changes

/-- Changes that touch no list leave every entry the list that it is. -/
theorem pages_becomes {entries others : List (Instance σ)} {changes : List (Change σ)}
    (standard : ∀ entry ∈ entries, entry.IsStandard) (spares : ∀ change ∈ changes, change.onPage = id)
    (becomes : List.Forall₂ (Becomes changes) entries others) : pages others = pages entries :=
  isView_page?.filterMap_becomes standard spares becomes

/-- The first list of a kind takes further values, whatever stands between the lists. -/
theorem map_pages_firstChanged? {entries : List (Instance σ)} (standard : ∀ entry ∈ entries, entry.IsStandard)
    (kind : Listing) (values : List Value) : (firstChanged? entries (.add kind values)).map pages =
      amendFirst? (Book.addTo kind values) (pages entries) := by
  apply filterMap_amendFirst?
  intro entry member
  obtain ⟨rule, arguments⟩ := entry
  cases rule with
  | declared declaration => exact absurd rfl ((standard _ member).ne_declared declaration)
  | listing other set operating =>
      simp only [amend, Change.amendment, Amendment.listing, Rule.page?, Option.bind_some, Book.addTo]
      split <;> rfl
  | _ => rfl

end Instance

namespace Book

variable {book : Book} {kind : Listing} {values : List Value}

/-- Striking values from the sets of a book. -/
theorem sets_strike : (book.strike values).sets = book.sets.map fun page =>
    (page.1, if page.1 = .invalid then page.2 else page.2.remove values) := by
  rw [sets, sets, strike, List.map_map, List.map_map]
  apply List.map_congr_left
  intro page _
  simp only [Function.comp_apply]
  split <;> rfl

/-- The settled lists are the pages of the book, and the lists that still wait are empty but know its relations. -/
structure Records (book : Book) (state : Siblings (Instance σ)) : Prop where
  settled : Instance.pages state.before = book.sets
  waiting : ∀ page ∈ Instance.pages state.after, page.2 = ⟨[], book.relations⟩

variable {entry : Instance σ} {deed : Deed σ} {before after : List (Instance σ)}

/-- What a rule that lists values strikes is struck in the book. -/
theorem pages_strikes (kind : Listing) (values : List Value) {entries : List (Instance σ)}
    (standard : ∀ entry ∈ entries, entry.IsStandard) (settled : Instance.pages entries = book.sets) :
    Instance.pages (entries.map (Instance.changedBy (Rule.strikes kind values))) =
      (if kind = .invalid then book.strike values else book).sets := by
  rw [Instance.pages_changedBy standard, settled]
  by_cases invalid : kind = .invalid
  · rw [if_pos invalid, sets_strike]
    apply List.map_congr_left
    intro page _
    obtain ⟨other, set⟩ := page
    cases other <;> simp [Rule.strikes, invalid, Change.onPage]
  · rw [if_neg invalid]
    exact (List.map_congr_left fun page _ => by simp [Rule.strikes, invalid]).trans (List.map_id _)

/-- The lists that wait stay empty, whatever is struck and whatever relation they are told. -/
theorem Records.waiting_changedBy {state : Siblings (Instance σ)} (records : book.Records state)
    (later : ∀ other ∈ after, other.IsStandard) (among : after ⊆ state.after) {changes : List (Change σ)}
    {relations : List Relation}
    (stays : ∀ kind, (changes.foldl (fun page change => change.onPage page) (kind, ⟨[], book.relations⟩)).2 =
      ⟨[], relations⟩) :
    ∀ page ∈ Instance.pages (after.map (Instance.changedBy changes)), page.2 = ⟨[], relations⟩ := by
  intro page member
  rw [Instance.pages_changedBy later] at member
  obtain ⟨⟨kind, set⟩, inside, rfl⟩ := List.mem_map.mp member
  obtain ⟨waited, stands, own⟩ := Instance.mem_pages.mp inside
  obtain rfl : set = ⟨[], book.relations⟩ :=
    records.waiting (kind, set) (Instance.mem_pages.mpr ⟨waited, among stands, own⟩)
  exact stays kind

variable [Identified σ]

/-- A round takes no list away if there is no earlier one that the wired rule could be the same call as. -/
theorem pages_before_afterRound (own : entry.IsStandard) (earlier : ∀ other ∈ before, other.IsStandard)
    (found : entry.deed = .ok deed)
    (apart : ∀ page ∈ Instance.pages (deed.onBefore before).2, some page.1 ≠ entry.rule.page?.map Prod.fst) :
    Instance.pages (entry.afterRound deed before after).before =
      Instance.pages (deed.onBefore before).2 ++
        if (entry.wiredBy deed ⟨before, after⟩).rule.operates then
          (entry.wiredBy deed ⟨before, after⟩).rule.page?.toList else [] := by
  refine Instance.filterMap_before_afterRound own earlier found fun _ other member shown sort => ?_
  obtain ⟨page, seen⟩ := Option.isSome_iff_exists.mp shown
  have kinds := Rule.kind_page?_of_unwired sort
  rw [seen] at kinds
  exact apart page (Instance.mem_pages.mpr ⟨other, member, seen⟩) kinds

/-- A rule that lists values enters them in the book, after what it has struck there. -/
theorem pages_before_afterRound_listing {operating : Bool} (own : entry.IsStandard)
    (earlier : ∀ other ∈ before, other.IsStandard) (found : entry.deed = .ok deed)
    (listing : entry.rule = .listing kind ⟨[], book.relations⟩ operating)
    (gathers : deed = .gathering (Rule.strikes kind values) (.add kind values)
      (.listing kind ⟨[], book.relations⟩ false) (.listing kind ⟨values, book.relations⟩ true))
    (struck : Instance.pages (before.map (Instance.changedBy (Rule.strikes kind values))) = book.sets) :
    Instance.pages (entry.afterRound deed before after).before = (book.enter kind values).sets := by
  have onEarlier : deed.onEarlier before = before.map (Instance.changedBy (Rule.strikes kind values)) := by
    rw [gathers]
    rfl
  have outcome := Deed.onBefore_gathering (Rule.strikes kind values) (.add kind values)
    (.listing kind ⟨[], book.relations⟩ false) (.listing kind ⟨values, book.relations⟩ true) before
  rw [← gathers] at outcome
  have taken := Instance.map_pages_firstChanged?
    (Change.standard_of_becomes earlier (deed.becomes_onEarlier before)) kind values
  rw [onEarlier, struck, amendFirst?_addTo] at taken
  cases reached : firstChanged? (before.map (Instance.changedBy (Rule.strikes kind values))) (.add kind values) with
  | some changed =>
      -- An earlier list takes the values, and the rule itself is left out.
      rw [reached] at outcome
      have idle : (entry.wiredBy deed ⟨before, after⟩).rule.operates = false := by
        rw [Instance.wiredBy, outcome, gathers]
        rfl
      rw [reached, Option.map_some] at taken
      rw [Instance.before_afterRound_of_idle idle, outcome]
      split at taken
      · exact Option.some.inj taken
      · cases taken
  | none =>
      -- There is no such list, and the rule stands for a new page.
      rw [reached] at outcome
      have wired : (entry.wiredBy deed ⟨before, after⟩).rule = .listing kind ⟨values, book.relations⟩ true := by
        rw [Instance.wiredBy, outcome, gathers]
        rfl
      rw [reached, Option.map_none] at taken
      split at taken
      · cases taken
      next fresh =>
        rw [pages_before_afterRound own earlier found, outcome, struck, sets_enter_of_fresh fresh, wired]
        · rfl
        · intro page member same
          rw [outcome, struck] at member
          rw [listing] at same
          obtain rfl : page.1 = kind := Option.some.inj same
          rw [← kinds_sets] at fresh
          exact fresh (List.mem_map_of_mem member)

/-- A rule that lists values writes its note. -/
theorem Records.afterRound_listing {set : ListedValues} {operating : Bool}
    (records : book.Records ⟨before, entry :: after⟩) (own : entry.IsStandard) (earlier : ∀ other ∈ before, other.IsStandard)
    (later : ∀ other ∈ after, other.IsStandard) (found : entry.deed = .ok deed)
    (listing : entry.rule = .listing kind set operating)
    (gathers : deed = .gathering (Rule.strikes kind values) (.add kind values) (.listing kind set false)
      (.listing kind (set.add values) true)) :
    (book.write (.listing kind values)).Records (entry.afterRound deed before after) := by
  have page : (kind, set) ∈ Instance.pages (entry :: after) :=
    Instance.mem_pages.mpr ⟨entry, List.mem_cons_self, by rw [listing]; rfl⟩
  obtain rfl : set = ⟨[], book.relations⟩ := records.waiting (kind, set) page
  have struck := pages_strikes kind values earlier records.settled
  have relations : (if kind = .invalid then book.strike values else book).relations = book.relations := by
    split <;> rfl
  constructor
  · rw [← relations] at listing gathers
    exact pages_before_afterRound_listing own earlier found listing gathers struck
  · rw [Instance.afterRound, Deed.onEach, gathers, Deed.gathering, relations_write_listing]
    refine records.waiting_changedBy later (List.subset_cons_self _ _) fun other => ?_
    by_cases invalid : kind = .invalid
    · cases other <;> simp [Rule.strikes, invalid, Change.onPage, ListedValues.remove]
    · simp [Rule.strikes, invalid]

/-- The rule by which the case of letters does not matter tells all lists of its relation. -/
theorem Records.afterRound_insensitive (records : book.Records ⟨before, entry :: after⟩)
    (earlier : ∀ other ∈ before, other.IsStandard) (later : ∀ other ∈ after, other.IsStandard)
    (relates : deed = .modifying [.relate sameIgnoringCase] [] .insensitive) :
    (book.write .insensitive).Records (entry.afterRound deed before after) := by
  constructor
  · have idle : (entry.wiredBy deed ⟨before, after⟩).rule.operates = false := by
      rw [Instance.wiredBy, relates]
      rfl
    have outcome : (deed.onBefore before).2 = before.map (Instance.changedBy [.relate sameIgnoringCase]) := by
      rw [relates]
      rfl
    rw [Instance.before_afterRound_of_idle idle, outcome, Instance.pages_changedBy earlier, records.settled]
    simp only [sets, write, List.map_map]
    rfl
  · rw [Instance.afterRound, Deed.onEach, relates, Deed.modifying]
    exact records.waiting_changedBy later (List.subset_cons_self _ _) fun _ => rfl

/-- A rule that neither lists values nor adds a relation leaves all lists as they are. -/
theorem Records.afterRound_other (records : book.Records ⟨before, entry :: after⟩) (own : entry.IsStandard)
    (earlier : ∀ other ∈ before, other.IsStandard) (later : ∀ other ∈ after, other.IsStandard)
    (found : entry.deed = .ok deed) (noListing : entry.rule.page? = none) (sensitive : entry.rule ≠ .insensitive) :
    book.Records (entry.afterRound deed before after) := by
  have spares : ∀ change ∈ deed.changes, change.onPage = id := by
    intro change member
    have makes := (Rule.does_of_deed found).makes change member
    cases change with
    | add kind values =>
        obtain ⟨set, operating, same⟩ := Rule.eq_listing_of_makes_add makes
        rw [same] at noListing
        cases noListing
    | strike kind values =>
        obtain ⟨-, set, operating, same⟩ := Rule.eq_invalid_of_makes_strike makes
        rw [same] at noListing
        cases noListing
    | relate relation => exact absurd (Rule.eq_insensitive_of_makes_relate makes) sensitive
    | _ => rfl
  have wired : (entry.wiredBy deed ⟨before, after⟩).rule.page? = none := by
    have kinds := Rule.kind_page?_of_unwired (Prod.mk.inj (Instance.call_wiredBy own found ⟨before, after⟩)).1
    rwa [noListing, Option.map_none, Option.map_eq_none_iff] at kinds
  constructor
  · rw [pages_before_afterRound own earlier found (by rw [noListing]; intro _ _ same; cases same), wired,
      Option.toList_none, ite_self, List.append_nil, ← records.settled]
    exact Instance.pages_becomes earlier spares (deed.becomes_onBefore before)
  · intro page member
    rw [Instance.afterRound, Instance.pages_becomes later spares (deed.becomes_map_onEach after)] at member
    obtain ⟨waited, stands, own⟩ := Instance.mem_pages.mp member
    exact records.waiting page (Instance.mem_pages.mpr ⟨waited, List.mem_cons_of_mem _ stands, own⟩)

/-- A round writes what its call notes. -/
theorem Records.afterRound (records : book.Records ⟨before, entry :: after⟩)
    (standard : ∀ other ∈ before ++ entry :: after, other.IsStandard) (found : entry.deed = .ok deed) :
    (entry.note?.toList.foldl write book).Records (entry.afterRound deed before after) := by
  obtain ⟨earlier, waiting⟩ := List.forall_mem_append.mp standard
  obtain ⟨own, later⟩ := List.forall_mem_cons.mp waiting
  have does : entry.rule.deed entry.arguments = .ok deed := found
  cases rule : entry.rule with
  | listing kind set operating =>
      rw [rule] at does
      obtain ⟨values, read, gathers⟩ := Rule.exists_of_map_eq_ok does
      rw [Instance.note?, rule, Rule.note?, read]
      exact records.afterRound_listing own earlier later found rule gathers.symm
  | insensitive =>
      rw [rule] at does
      rw [Instance.note?, rule]
      exact records.afterRound_insensitive earlier later (Except.ok.inj does).symm
  | _ =>
      rw [Instance.note?, rule]
      apply records.afterRound_other own earlier later found
      · rw [rule]
        rfl
      · rw [rule]
        exact fun same => nomatch same

end Book

/-! ## The notes of an assembly -/

namespace Instance

/-- A list that has not been wired is empty. -/
theorem IsFresh.page_eq {entry : Instance σ} (fresh : entry.IsFresh) {page : Listing × ListedValues}
    (own : entry.rule.page? = some page) : page.2 = .empty := by
  unfold IsFresh at fresh
  cases listing : entry.rule with
  | listing kind set operating =>
      rw [listing] at fresh own
      obtain rfl := Option.some.inj own
      exact (Rule.listing.inj fresh).2.1
  | _ =>
      rw [listing] at own
      cases own

/-- Notes of valid and of allowed values come from the rules of one priority, and all other notes from the rules of
another one. -/
theorem priority_of_note? {entry : Instance σ} {note : Note} (noted : entry.note? = some note) :
    entry.rule.priority = if note.isEarly then 0 else 100 := by
  obtain ⟨rule, arguments⟩ := entry
  cases rule with
  | listing kind set operating =>
      obtain ⟨values, -, rfl⟩ := Option.map_eq_some_iff.mp noted
      cases kind <;> rfl
  | insensitive =>
      obtain rfl := Option.some.inj noted
      rfl
  | _ => cases noted

variable [Identified σ]

/-- Calls are wired in the order in which their notes are arranged. -/
theorem notes_ordered (entries : List (Instance σ)) :
    (wiring.ordered entries).filterMap note? = Notes.arranged (entries.filterMap note?) :=
  wiring.filterMap_ordered (by decide) (fun _ _ noted => priority_of_note? noted) entries

/-- **What is listed.**  The lists of values that come out of an assembly are the pages of the book of its arranged
notes. -/
theorem pages_assemble {entries kept : List (Instance σ)}
    (fresh : ∀ entry ∈ entries, entry.IsStandard ∧ entry.IsFresh) (assembled : assemble entries = .ok kept) :
    pages kept = (Book.ofNotes (Notes.arranged (entries.filterMap note?))).sets := by
  have start : Book.empty.Records ⟨[], wiring.ordered entries⟩ := by
    refine ⟨rfl, fun page member => ?_⟩
    obtain ⟨entry, stands, own⟩ := mem_pages.mp member
    exact (fresh entry ((wiring.ordered_perm entries).mem_iff.mp stands)).2.page_eq own
  obtain ⟨state, rfl, records⟩ := assemble_foldl Book.write Book.Records note?_of_call
    (fun standard found records => records.afterRound standard found) (fun entry member => (fresh entry member).1)
    assembled start
  rw [notes_ordered] at records
  exact records.settled

end Instance

end Vetting
