import Mathlib.Data.List.Nodup
import Mathlib.Data.List.Perm.Basic
import IosProjects.Library.Lists
import IosProjects.MealFinder.Recipes

/-!
# LastSearch — the list on the screen against the last search issued

Every run is matched by its history: the answers that arrived before the last search was issued and
those that arrived since. The list shows the answers since, all of them; the background tells
whether any search at all was without a result.
-/

namespace IosProjects
namespace MealFinder

open IosProjects.Library

/-! ## Histories -/

structure Answer where
  search : ℕ
  recipes : Option (List Recipe)

/-- The recipes an answer brings. -/
def Answer.meals (answer : Answer) : List Recipe :=
  answer.recipes.getD []

/-- The number of searches issued, and the answers in the order in which they arrived: `earlier`
before the last search was issued and `since` after it. -/
structure History where
  issued : ℕ
  earlier : List Answer
  since : List Answer

namespace History

def start : History where
  issued := 0
  earlier := []
  since := []

def answers (h : History) : List Answer :=
  h.earlier ++ h.since

def search (h : History) : History where
  issued := h.issued + 1
  earlier := h.answers
  since := []

def answer (search : ℕ) (recipes : Option (List Recipe)) (h : History) : History :=
  { h with since := h.since ++ [{ search := search, recipes := recipes }] }

/-- A text is searched for. -/
def searchText (isURL : String → Bool) (text : Option String) (h : History) : History :=
  match searchQuery text with
  | none => h
  | some query =>
      if isURL (searchAddress query) then h.search else h.search.answer h.issued none

/-- What an event adds. -/
def record (isURL : String → Bool) (h : History) : Event → History
  | .searchRecipes text => h.searchText isURL text
  | .answer search response => h.answer search response.recipes
  | .runBlock => h

/-- The history of a run. -/
def after (isURL : String → Bool) (es : List Event) : History :=
  es.foldl (record isURL) start

/-- What the last search issued returned, if one was issued and has been answered. -/
def lastReturned (h : History) : Option (Option (List Recipe)) :=
  (h.since.find? fun answer => answer.search + 1 = h.issued).map Answer.recipes

theorem after_snoc (isURL : String → Bool) (es : List Event) (e : Event) :
    after isURL (es ++ [e]) = (after isURL es).record isURL e := by
  rw [after, List.foldl_append, List.foldl_cons, List.foldl_nil, ← after]

@[simp] theorem issued_answer {search : ℕ} {recipes : Option (List Recipe)} {h : History} :
    (h.answer search recipes).issued = h.issued := rfl

@[simp] theorem earlier_answer {search : ℕ} {recipes : Option (List Recipe)} {h : History} :
    (h.answer search recipes).earlier = h.earlier := rfl

@[simp] theorem since_answer {search : ℕ} {recipes : Option (List Recipe)} {h : History} :
    (h.answer search recipes).since = h.since ++ [⟨search, recipes⟩] := rfl

@[simp] theorem answers_answer {search : ℕ} {recipes : Option (List Recipe)} {h : History} :
    (h.answer search recipes).answers = h.answers ++ [⟨search, recipes⟩] := by
  simp [answers]

@[simp] theorem answers_search {h : History} : h.search.answers = h.answers := by
  simp [answers, search]

end History

/-! ## The screen and the condition -/

/-- The list is what the last search returned, and the background says so when it returned
nothing. -/
structure ShowsLastSearch (h : History) (vc : RecipesViewController) : Prop where
  meals : vc.meals = h.lastReturned.join.getD []
  background : vc.backgroundView = some "No Data" ↔ h.lastReturned = some none

/-- No other search brought a recipe after the last search was issued, and if any search returned
nothing, the last one did. -/
structure Undisturbed (h : History) : Prop where
  late : ∀ answer ∈ h.since, answer.search + 1 ≠ h.issued → answer.meals = []
  missing : ∀ answer ∈ h.answers, answer.recipes = none → h.lastReturned = some none

/-! ## The history of a run -/

/-- The history knows the list, the background, and which searches are in flight. -/
structure Matches (h : History) (s : AppState) : Prop where
  issued : s.issued = h.issued
  meals : s.viewController.meals = h.since.flatMap Answer.meals
  background : (s.viewController.backgroundView = some "No Data" ∨ .emptyResults ∈ s.blocks) ↔
    ∃ answer ∈ h.answers, answer.recipes = none
  searches : (h.answers.map Answer.search ++ s.requests).Perm (List.range h.issued)
  earlier : ∀ answer ∈ h.earlier, answer.search + 1 < h.issued

theorem Matches.launch : Matches .start .launch where
  issued := rfl
  meals := rfl
  background := by simp [AppState.launch, History.start, History.answers]
  searches := .refl _
  earlier := by simp [History.start]

/-- Clearing the list and numbering the new search. -/
theorem Matches.search {h : History} {s : AppState} (hmatches : Matches h s) :
    Matches h.search
      { s with
        viewController := { s.viewController with meals := [] }
        issued := s.issued + 1
        requests := s.requests ++ [s.issued] } where
  issued := congrArg (· + 1) hmatches.issued
  meals := rfl
  background := by simpa using hmatches.background
  searches := by
    -- the new number comes last, as it does in the range
    rw [History.answers_search, ← List.append_assoc, hmatches.issued]
    exact (hmatches.searches.append_right _).trans (List.range_succ ▸ .refl _)
  earlier := by
    intro answer hanswer
    -- what has been answered was issued before this search
    have hmem : answer.search ∈ h.answers.map Answer.search ++ s.requests :=
      List.mem_append_left _ (List.mem_map_of_mem hanswer)
    have hlt : answer.search < h.issued := List.mem_range.1 (hmatches.searches.subset hmem)
    exact Nat.succ_lt_succ hlt

/-- A search in flight is answered. -/
theorem Matches.answer {h : History} {s : AppState} (hmatches : Matches h s) {search : ℕ}
    (hsearch : search ∈ s.requests) (recipes : Option (List Recipe)) :
    Matches (h.answer search recipes)
      ({ s with requests := s.requests.erase search }.completed recipes) where
  issued := hmatches.issued
  meals := by
    cases recipes <;>
      simp [AppState.completed, RecipesViewController.completion, hmatches.meals, Answer.meals]
  background := by
    have hbackground := hmatches.background
    cases recipes with
    | none => simp [AppState.completed, RecipesViewController.completionBlock]
    | some recipes =>
        simpa [AppState.completed, RecipesViewController.completion,
          RecipesViewController.completionBlock] using hbackground
  searches := by
    have hmoved : (search :: s.requests.erase search).Perm s.requests :=
      (List.perm_cons_erase hsearch).symm
    simpa [AppState.completed] using
      (List.Perm.append_left (h.answers.map Answer.search) hmoved).trans hmatches.searches
  earlier := hmatches.earlier

/-- A step does to the screen what its event does to the history. -/
theorem Matches.step {isURL : String → Bool} {h : History} {s t : AppState} {e : Event}
    (hmatches : Matches h s) (hstep : Step isURL s e t) : Matches (h.record isURL e) t := by
  cases hstep with
  | @searchRecipes text =>
      change Matches (h.searchText isURL text) (s.searchRecipes isURL text)
      unfold AppState.searchRecipes History.searchText
      cases searchQuery text with
      | none => exact hmatches
      | some query =>
          simp only
          split
          · exact hmatches.search
          · -- the search is put in flight and answered in one turn
            have hmem : h.issued ∈ s.requests ++ [s.issued] := by simp [hmatches.issued]
            have hnotMem : h.issued ∉ s.requests := by
              intro hmem
              exact absurd (hmatches.searches.subset (List.mem_append_right _ hmem)) (by simp)
            have hanswered := hmatches.search.answer hmem none
            simpa [hmatches.issued, List.erase_append_right _ hnotMem] using hanswered
  | @answer search response hsearch => exact hmatches.answer hsearch response.recipes
  | @runBlock block blocks hblocks =>
      refine ⟨hmatches.issued, ?_, ?_, hmatches.searches, hmatches.earlier⟩
      · cases block <;> exact hmatches.meals
      · rw [History.record, ← hmatches.background, hblocks]
        cases block <;> simp [RecipesViewController.run, RecipesViewController.emptyResults]

theorem Matches.run {isURL : String → Bool} {es : List Event} {s : AppState}
    (hrun : Run (Step isURL) .launch es s) : Matches (.after isURL es) s := by
  refine hrun.invariant_history (P := fun es s => Matches (.after isURL es) s) Matches.launch ?_
  intro es t e u _ hmatches hstep
  rw [History.after_snoc]
  exact hmatches.step hstep

/-! ## When everything has arrived -/

/-- Once no search is in flight, the last search has been answered, since it was issued and only
once. -/
theorem Matches.last_answered {h : History} {s : AppState} (hmatches : Matches h s)
    (hrequests : s.requests = []) (hissued : h.issued ≠ 0) :
    ∃ before answer after, h.since = before ++ answer :: after ∧
      answer.search + 1 = h.issued ∧ h.lastReturned = some answer.recipes ∧
      ∀ other ∈ before ++ after, other.search + 1 ≠ h.issued := by
  have hsearches := hmatches.searches
  rw [hrequests, List.append_nil] at hsearches
  -- every number below `issued` has been answered exactly once
  have hlast : h.issued - 1 ∈ h.answers.map Answer.search :=
    hsearches.symm.subset (List.mem_range.2 (Nat.sub_one_lt hissued))
  rcases List.mem_map.1 hlast with ⟨answer, hanswer, hnumber⟩
  have hsucc : answer.search + 1 = h.issued := by omega
  -- the answers before the last search was issued are to earlier searches
  have hsince : answer ∈ h.since := by
    rcases List.mem_append.1 hanswer with hearlier | hsince
    · exact absurd (hmatches.earlier answer hearlier) (by omega)
    · exact hsince
  rcases List.append_of_mem hsince with ⟨before, after, heq⟩
  have hnodup : (h.since.map Answer.search).Nodup := by
    have hall : (h.answers.map Answer.search).Nodup := hsearches.nodup_iff.2 List.nodup_range
    rw [History.answers, List.map_append] at hall
    exact hall.of_append_right
  have hothers : ∀ other ∈ before ++ after, other.search + 1 ≠ h.issued := by
    intro other hother hsame
    rw [heq, List.map_append, List.map_cons, List.nodup_middle] at hnodup
    have hmem : other.search ∈ before.map Answer.search ++ after.map Answer.search := by
      rw [← List.map_append]
      exact List.mem_map_of_mem hother
    have : other.search = answer.search := by omega
    exact (List.nodup_cons.1 hnodup).1 (this ▸ hmem)
  refine ⟨before, answer, after, heq, hsucc, ?_, hothers⟩
  have hbefore : before.find? (fun answer => answer.search + 1 = h.issued) = none :=
    List.find?_eq_none.2 fun other hother => by
      simpa using hothers other (List.mem_append_left _ hother)
  rw [History.lastReturned, heq, List.find?_append, hbefore]
  simp [hsucc]

/-- Once every completion has arrived and the main queue is empty, the screen shows the last search
if and only if nothing disturbed it. -/
theorem showsLastSearch_iff {isURL : String → Bool} {es : List Event} {s : AppState}
    (hrun : Run (Step isURL) .launch es s) (hrequests : s.requests = []) (hblocks : s.blocks = []) :
    ShowsLastSearch (.after isURL es) s.viewController ↔ Undisturbed (.after isURL es) := by
  have hmatches := Matches.run hrun
  generalize History.after isURL es = h at hmatches
  have hbackground : s.viewController.backgroundView = some "No Data" ↔
      ∃ answer ∈ h.answers, answer.recipes = none := by
    simpa [hblocks] using hmatches.background
  by_cases hissued : h.issued = 0
  · -- nothing was searched for
    have hanswers : h.answers = [] := by
      have hsearches := hmatches.searches
      rw [hissued, List.range_zero, List.perm_nil, List.append_eq_nil_iff] at hsearches
      exact List.map_eq_nil_iff.1 hsearches.1
    have hsince : h.since = [] := (List.append_eq_nil_iff.1 hanswers).2
    have hlast : h.lastReturned = none := by simp [History.lastReturned, hsince]
    refine iff_of_true ⟨?_, ?_⟩ ⟨?_, ?_⟩
    · simp [hmatches.meals, hsince, hlast]
    · simp [hbackground, hanswers, hlast]
    · simp [hsince]
    · simp [hanswers]
  · -- the list is the recipes of the last search with what came before and after them
    rcases hmatches.last_answered hrequests hissued with
      ⟨before, answer, after, hsince, hsucc, hlast, hothers⟩
    have hmem : answer ∈ h.answers := by simp [History.answers, hsince]
    have hmeals : s.viewController.meals = h.lastReturned.join.getD [] ↔
        ∀ other ∈ before ++ after, other.meals = [] := by
      rw [hmatches.meals, hsince, hlast]
      exact flatMap_append_cons_eq_iff
    constructor
    · intro hshows
      refine ⟨?_, fun other hother hnone =>
        hshows.background.1 (hbackground.2 ⟨other, hother, hnone⟩)⟩
      intro other hother hne
      refine hmeals.1 hshows.meals other ?_
      rw [hsince, List.mem_append, List.mem_cons] at hother
      rcases hother with hother | rfl | hother
      · exact List.mem_append_left _ hother
      · -- it is the answer to the last search itself
        exact absurd hsucc hne
      · exact List.mem_append_right _ hother
    · intro hundisturbed
      refine ⟨hmeals.2 fun other hother => ?_, ?_⟩
      · refine hundisturbed.late other ?_ (hothers other hother)
        rw [hsince]
        rcases List.mem_append.1 hother with hother | hother
        · exact List.mem_append_left _ hother
        · exact List.mem_append_right _ (List.mem_cons_of_mem _ hother)
      · rw [hbackground]
        constructor
        · rintro ⟨other, hother, hnone⟩
          exact hundisturbed.missing other hother hnone
        · intro hnone
          rw [hlast] at hnone
          exact ⟨answer, hmem, Option.some.inj hnone⟩

def arrabiata : Recipe where
  idMeal := "52771"
  strMeal := "Spicy Arrabiata Penne"
  strCategory := "Vegetarian"
  strSource := ""
  strMealThumb := "arrabiata.jpg"

def laksa : Recipe where
  idMeal := "52773"
  strMeal := "Laksa King Prawn Noodles"
  strCategory := "Seafood"
  strSource := ""
  strMealThumb := "laksa.jpg"

def found (recipe : Recipe) : Response where
  data := some (some { meals := [recipe] })
  error := none

/-- One search after another shows the second. -/
theorem laksa_after_arrabiata_iff :
    ShowsLastSearch (.after (fun _ => true) [.searchRecipes (some "arrabiata"),
        .answer 0 (found arrabiata), .runBlock, .searchRecipes (some "laksa"),
        .answer 1 (found laksa), .runBlock]) ⟨[laksa], false, none, .singleLine⟩ ↔
      Undisturbed (.after (fun _ => true) [.searchRecipes (some "arrabiata"),
        .answer 0 (found arrabiata), .runBlock, .searchRecipes (some "laksa"),
        .answer 1 (found laksa), .runBlock]) := by
  have hrun : Run (Step fun _ => true) .launch [.searchRecipes (some "arrabiata"),
      .answer 0 (found arrabiata), .runBlock, .searchRecipes (some "laksa"),
      .answer 1 (found laksa), .runBlock] _ :=
    (((((Run.single Step.searchRecipes).snoc (Step.answer (by decide +kernel))).snoc
      (Step.runBlock rfl)).snoc Step.searchRecipes).snoc (Step.answer (by decide +kernel))).snoc
      (Step.runBlock rfl)
  exact showsLastSearch_iff hrun (by decide +kernel) (by decide +kernel)

/-- The answer to the first search arrives after the second one's and is shown below it. -/
theorem late_answer_is_shown :
    ¬ ∀ (es : List Event) (s : AppState), Run (Step fun _ => true) .launch es s →
      s.requests = [] → s.blocks = [] →
        ShowsLastSearch (.after (fun _ => true) es) s.viewController := by
  intro h
  have hrun : Run (Step fun _ => true) .launch [.searchRecipes (some "arrabiata"),
      .searchRecipes (some "laksa"), .answer 1 (found laksa), .answer 0 (found arrabiata),
      .runBlock, .runBlock] _ :=
    (((((Run.single Step.searchRecipes).snoc Step.searchRecipes).snoc
      (Step.answer (by decide +kernel))).snoc (Step.answer (by decide +kernel))).snoc
      (Step.runBlock rfl)).snoc (Step.runBlock rfl)
  have hmeals := (h _ _ hrun (by decide +kernel) (by decide +kernel)).meals
  revert hmeals
  decide +kernel

end MealFinder
end IosProjects
