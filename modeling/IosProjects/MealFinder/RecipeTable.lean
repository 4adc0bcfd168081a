import IosProjects.MealFinder.Recipes

/-!
# RecipeTable — the rows of the table and the recipes behind them

A search empties `meals` when it is issued, and the table keeps the rows of its last reload until a
block queued by some completion reloads it. In between the user scrolls and selects rows.
-/

namespace IosProjects
namespace MealFinder

open IosProjects.Library

/-- `meals[indexPath.row]`, with which `cellForRowAt` and `didSelectRowAt` begin; an index out of
range traps. -/
def RecipesViewController.meal (row : ℕ) (vc : RecipesViewController) : Option Recipe :=
  vc.meals[row]?

/-- `rows` is the number of rows the table view shows since it was last reloaded. -/
structure RecipeTable where
  app : AppState
  rows : ℕ

namespace RecipeTable

def launch : RecipeTable where
  app := .launch
  rows := 0

def meals (table : RecipeTable) : List Recipe :=
  table.app.viewController.meals

/-- `foodTableView.reloadData()`. -/
def reloadData (table : RecipeTable) : RecipeTable :=
  { table with rows := table.meals.length }

end RecipeTable

inductive RecipeTableEvent where
  | searchRecipes (text : Option String)
  | answer (search : ℕ) (response : Response)
  | runBlock
  | scroll (row : ℕ)
  | select (row : ℕ)
  deriving DecidableEq, Repr

/-- Each step is one turn of the main queue, but for an answer, which comes on another. Both kinds
of block reload the table. -/
inductive RecipeTableStep (isURL : String → Bool) :
    RecipeTable → RecipeTableEvent → RecipeTable → Prop where
  | searchRecipes {s : RecipeTable} {text : Option String} {app : AppState} :
      Step isURL s.app (.searchRecipes text) app →
      RecipeTableStep isURL s (.searchRecipes text) { s with app := app }
  | answer {s : RecipeTable} {search : ℕ} {response : Response} {app : AppState} :
      Step isURL s.app (.answer search response) app →
      RecipeTableStep isURL s (.answer search response) { s with app := app }
  | runBlock {s : RecipeTable} {app : AppState} :
      Step isURL s.app .runBlock app →
      RecipeTableStep isURL s .runBlock (RecipeTable.reloadData { s with app := app })
  | scroll {s : RecipeTable} {row : ℕ} {meal : Recipe} :
      row < s.rows → s.app.viewController.meal row = some meal →
      RecipeTableStep isURL s (.scroll row) s
  | select {s : RecipeTable} {row : ℕ} {meal : Recipe} :
      row < s.rows → s.app.viewController.meal row = some meal →
      RecipeTableStep isURL s (.select row) s

/-! ## Rows -/

/-- Every row the table can ask for has a recipe. -/
structure RecipeRowsValid (s : RecipeTable) : Prop where
  rows_le : s.rows ≤ s.meals.length
  meal : ∀ row < s.rows, (s.app.viewController.meal row).isSome

theorem recipeRowsValid_iff {s : RecipeTable} : RecipeRowsValid s ↔ s.rows ≤ s.meals.length := by
  constructor
  · exact RecipeRowsValid.rows_le
  · intro hle
    refine ⟨hle, fun row hrow => ?_⟩
    have hlt : row < s.app.viewController.meals.length := Nat.lt_of_lt_of_le hrow hle
    simp [RecipesViewController.meal, hlt]

/-- A search that is issued leaves no recipe, with or without an address. -/
theorem meals_searchRecipes {isURL : String → Bool} {text : Option String} {query : String}
    (h : searchQuery text = some query) (s : AppState) :
    (s.searchRecipes isURL text).viewController.meals = [] := by
  simp only [AppState.searchRecipes, h]
  split <;> rfl

theorem meals_answered (search : ℕ) (response : Response) (s : AppState) :
    s.viewController.meals.length ≤ (s.answered search response).viewController.meals.length := by
  unfold AppState.answered AppState.completed RecipesViewController.completion
  cases response.recipes <;> simp

/-- The event is no search issued while the table has rows. -/
def ClearsNoRows (s : RecipeTable) (e : RecipeTableEvent) : Prop :=
  ∀ text, e = .searchRecipes text → searchQuery text ≠ none → s.rows = 0

theorem recipeRowsValid_step_iff {isURL : String → Bool} {s t : RecipeTable} {e : RecipeTableEvent}
    (h : s.rows ≤ s.meals.length) (hstep : RecipeTableStep isURL s e t) :
    t.rows ≤ t.meals.length ↔ ClearsNoRows s e := by
  have hother : (∀ text, e ≠ .searchRecipes text) → ClearsNoRows s e :=
    fun hne text he => absurd he (hne text)
  cases hstep with
  | @searchRecipes text app happ =>
      cases happ with
      | searchRecipes =>
          cases hquery : searchQuery text with
          | none =>
              -- an empty field issues no search
              refine iff_of_true ?_ ?_
              · simpa [RecipeTable.meals, AppState.searchRecipes, hquery] using h
              · rintro _ ⟨⟩ hissued
                exact absurd hquery hissued
          | some query =>
              -- the list is emptied before anything reloads the table
              have hmeals : (s.app.searchRecipes isURL text).viewController.meals = [] :=
                meals_searchRecipes hquery s.app
              constructor
              · rintro hle _ ⟨⟩ _
                simpa [RecipeTable.meals, hmeals] using hle
              · intro hclears
                have hrows : s.rows = 0 := hclears text rfl (by simp [hquery])
                simp [hrows]
  | answer happ =>
      cases happ with
      | answer _ => exact iff_of_true (Nat.le_trans h (meals_answered _ _ s.app)) (hother nofun)
  | runBlock _ => exact iff_of_true (Nat.le_refl _) (hother nofun)
  | scroll _ _ => exact iff_of_true h (hother nofun)
  | select _ _ => exact iff_of_true h (hother nofun)

/-- At the end of every turn every row the table can ask for has a recipe, if and only if no search
is issued while the table has rows. -/
theorem recipeRowsValid_throughout_iff (isURL : String → Bool) (es : List RecipeTableEvent) :
    Throughout (RecipeTableStep isURL) .launch es RecipeRowsValid ↔
      Along (RecipeTableStep isURL) .launch es fun s e _ => ClearsNoRows s e := by
  apply Throughout.iff_along
  · exact recipeRowsValid_iff.2 (Nat.le_refl 0)
  · intro before s e t _ h hstep
    rw [recipeRowsValid_iff]
    exact recipeRowsValid_step_iff h.rows_le hstep

def penne : Recipe where
  idMeal := "52771"
  strMeal := "Spicy Arrabiata Penne"
  strCategory := "Vegetarian"
  strSource := ""
  strMealThumb := "penne.jpg"

/-- A second search leaves the row of the first without a recipe. -/
theorem second_search_leaves_row :
    ¬ ∀ (isURL : String → Bool) (es : List RecipeTableEvent) (s : RecipeTable),
      Run (RecipeTableStep isURL) .launch es s → RecipeRowsValid s := by
  intro h
  have hshown : Run (RecipeTableStep fun _ => true) .launch
      [.searchRecipes (some "penne"), .answer 0 ⟨some (some ⟨[penne]⟩), none⟩, .runBlock] _ :=
    ((Run.single (.searchRecipes .searchRecipes)).snoc (.answer (.answer (by decide)))).snoc
      (.runBlock (.runBlock rfl))
  have hrun := hshown.snoc (e := .searchRecipes (some "soup")) (.searchRecipes .searchRecipes)
  have hle := (h _ _ _ hrun).rows_le
  revert hle
  decide

end MealFinder
end IosProjects
