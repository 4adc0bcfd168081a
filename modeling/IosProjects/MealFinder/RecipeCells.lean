import IosProjects.Library.LateLoads
import IosProjects.MealFinder.RecipeTable

/-!
# RecipeCells — the cells of the table of recipes

A cell is given the name and the category of its recipe when it is dequeued, and its picture when
the data has been read on another queue. A tap on a row looks the recipe up again: it opens the
recipe that the row shows as long as the array is the one the cells were set up from.
-/

namespace IosProjects
namespace MealFinder

open IosProjects.Library

/-! ## `RecipeTableViewCell` -/

structure RecipeTableViewCell (UIImage : Type) where
  mealImage : Option UIImage
  mealName : Option String
  mealCategory : Option String
  deriving DecidableEq, Repr

/-- A row, and the recipe it was set up with. -/
abbrev RecipeRow : Type := ℕ × Recipe

/-- How `cellForRowAt` and its block draw a recipe; `imageOf` is what `UIImage(data:)` makes of the
data at an address. -/
def recipeDrawing {UIImage : Type} (imageOf : String → Option UIImage) :
    Drawing RecipeRow (RecipeTableViewCell UIImage) (Option String × Option String)
      (Option UIImage) where
  configure := fun row cell =>
    { cell with mealName := some row.2.strMeal, mealCategory := some row.2.strCategory }
  load := fun row cell => { cell with mealImage := imageOf row.2.strMealThumb }
  text := fun cell => (cell.mealName, cell.mealCategory)
  picture := RecipeTableViewCell.mealImage
  textOf := fun row => (some row.2.strMeal, some row.2.strCategory)
  pictureOf := fun row => imageOf row.2.strMealThumb
  text_configure := fun _ _ => rfl
  text_load := fun _ _ => rfl
  picture_configure := fun _ _ => rfl
  picture_load := fun _ _ => rfl

/-! ## The screen -/

structure RecipeScreen (UIImage : Type) where
  table : RecipeTable
  cells : LoadingPool RecipeRow (RecipeTableViewCell UIImage)

def RecipeScreen.launch {UIImage : Type} : RecipeScreen UIImage where
  table := .launch
  cells := .empty ⟨none, none, none⟩

inductive RecipeScreenEvent where
  | table (event : RecipeTableEvent)
  | cells (event : LoadEvent RecipeRow)

section Screen

variable {UIImage : Type} (isURL : String → Bool) (imageOf : String → Option UIImage)

inductive RecipeScreenStep :
    RecipeScreen UIImage → RecipeScreenEvent → RecipeScreen UIImage → Prop where
  -- a reload takes every cell off the screen before it asks for cells again
  | table {s : RecipeScreen UIImage} {e : RecipeTableEvent} {table : RecipeTable} :
      RecipeTableStep isURL s.table e table → (∀ row, e ≠ .scroll row) →
      (e = .runBlock → ∀ row, s.cells.views.shown row = none) →
      RecipeScreenStep s (.table e) { s with table := table }
  -- the address of the picture is force-unwrapped
  | cellForRowAt {s : RecipeScreen UIImage} {row : ℕ} {meal : Recipe} {view : ℕ}
      {table : RecipeTable}
      {cells : LoadingPool RecipeRow (RecipeTableViewCell UIImage)} :
      RecipeTableStep isURL s.table (.scroll row) table →
      s.table.app.viewController.meal row = some meal → isURL meal.strMealThumb = true →
      LoadStep (recipeDrawing imageOf) s.cells (.use (row, meal) view) cells →
      RecipeScreenStep s (.cells (.use (row, meal) view)) { table := table, cells := cells }
  -- a cell leaves the screen, or data comes or cannot be read
  | cells {s : RecipeScreen UIImage} {e : LoadEvent RecipeRow}
      {cells : LoadingPool RecipeRow (RecipeTableViewCell UIImage)} :
      (∀ row view, e ≠ .use row view) → LoadStep (recipeDrawing imageOf) s.cells e cells →
      RecipeScreenStep s (.cells e) { s with cells := cells }

def RecipeScreenEvent.ofCells : RecipeScreenEvent → Option (LoadEvent RecipeRow)
  | .table _ => none
  | .cells e => some e

/-- The events of the cells in a run. -/
def recipeCellEvents (es : List RecipeScreenEvent) : List (LoadEvent RecipeRow) :=
  es.filterMap RecipeScreenEvent.ofCells

/-- The event is no search issued while there are rows on the screen. -/
def LeavesRows (s : RecipeScreen UIImage) (e : RecipeScreenEvent) : Prop :=
  ∀ text, e = .table (.searchRecipes text) → searchQuery text ≠ none →
    ∀ row, s.cells.views.shown row = none

end Screen

section Runs

variable {UIImage : Type} {isURL : String → Bool} {imageOf : String → Option UIImage}
  {es : List RecipeScreenEvent} {s t : RecipeScreen UIImage} {e : RecipeScreenEvent}

theorem recipeCells_of_run (hrun : Run (RecipeScreenStep isURL imageOf) .launch es s) :
    Run (LoadStep (recipeDrawing imageOf)) (.empty ⟨none, none, none⟩) (recipeCellEvents es)
      s.cells := by
  refine hrun.filterMap (f := RecipeScreen.cells) (g := RecipeScreenEvent.ofCells) ?_ ?_
  · rintro s e t d hd hstep
    cases hstep with
    | table _ _ _ => cases hd
    | cellForRowAt _ _ _ hload =>
        obtain rfl := Option.some.inj hd
        exact hload
    | cells _ hload =>
        obtain rfl := Option.some.inj hd
        exact hload
  · rintro s e t hnone hstep
    cases hstep with
    | table _ _ _ => rfl
    | cellForRowAt _ _ _ _ => cases hnone
    | cells _ _ => cases hnone

/-- A tap on a row on the screen opens the recipe it shows. -/
def OpensShown (s : RecipeScreen UIImage) : Prop :=
  ∀ row view, s.cells.views.shown row = some view →
    s.table.app.viewController.meal row.1 = some row.2

/-- An answer adds recipes behind those there are. -/
theorem meal_answered {search : ℕ} {response : Response} {a : AppState} {row : ℕ} {meal : Recipe}
    (h : a.viewController.meal row = some meal) :
    (a.answered search response).viewController.meal row = some meal := by
  have hlt := (List.getElem?_eq_some_iff.1 h).1
  unfold AppState.answered AppState.completed RecipesViewController.completion
  cases response.recipes with
  | none => exact h
  | some recipes => exact (List.getElem?_append_left hlt).trans h

theorem OpensShown.step (h : OpensShown s) (hleaves : LeavesRows s e)
    (hstep : RecipeScreenStep isURL imageOf s e t) : OpensShown t := by
  intro row view hshown
  cases hstep with
  | table htable hscroll hreload =>
      cases htable with
      | @searchRecipes text app happ =>
          cases happ with
          | searchRecipes =>
              cases hquery : searchQuery text with
              | none =>
                  simpa [AppState.searchRecipes, hquery] using h row view hshown
              | some query =>
                  have hnone := hleaves text rfl (by simp [hquery]) row
                  cases hshown.symm.trans hnone
      | answer happ =>
          cases happ with
          | answer _ => exact meal_answered (h row view hshown)
      | runBlock _ => cases hshown.symm.trans (hreload rfl row)
      | scroll _ _ => exact absurd rfl (hscroll _)
      | select _ _ => exact h row view hshown
  | cellForRowAt htable hmeal _ hload =>
      cases htable with
      | scroll _ _ =>
          rcases hload.used_or_shown hshown with ⟨_, heq⟩ | hbefore
          · cases heq
            exact hmeal
          · exact h row view hbefore
  | cells hne hload =>
      rcases hload.used_or_shown hshown with ⟨view', heq⟩ | hbefore
      · exact absurd heq (hne row view')
      · exact h row view hbefore

theorem opensShown_of_run (hrun : Run (RecipeScreenStep isURL imageOf) .launch es s)
    (hleaves : Along (RecipeScreenStep isURL imageOf) .launch es fun s e _ => LeavesRows s e) :
    OpensShown s :=
  hrun.invariant_along (fun _ _ _ h hok hstep => h.step hok hstep) hleaves
    fun _ _ hshown => nomatch hshown

end Runs

/-! ## An example -/

def pie : Recipe where
  idMeal := "52893"
  strMeal := "Apple Pie"
  strCategory := "Dessert"
  strSource := ""
  strMealThumb := "pie.jpg"

def pennePie : Response :=
  ⟨some (some ⟨[penne, pie]⟩), none⟩

def penneRow : RecipeRow := (0, penne)

def pieRow : RecipeRow := (1, pie)

/-- The table once the answer has reloaded it. -/
def penneTable : RecipeTable :=
  let searched := AppState.launch.searchRecipes (fun _ => true) (some "p")
  let answered := searched.answered 0 pennePie
  RecipeTable.reloadData ⟨{ answered with blocks := [] }, 0⟩

/-- One cell is used for the penne and, scrolled, for the pie; the picture of the penne is still on
its way. -/
def pieCells : LoadingPool RecipeRow (RecipeTableViewCell String) :=
  let d := recipeDrawing some
  (((LoadingPool.empty ⟨none, none, none⟩).use d penneRow 0).release penneRow).use d pieRow 0

def pieEvents : List RecipeScreenEvent :=
  [.table (.searchRecipes (some "p")), .table (.answer 0 pennePie), .table .runBlock,
    .cells (.use penneRow 0), .cells (.release penneRow), .cells (.use pieRow 0),
    .cells (.arrive 0 penneRow), .cells (.arrive 0 pieRow)]

/-- The row of the pie with its picture. -/
def pieScreen : RecipeScreen String where
  table := penneTable
  cells := (pieCells.arrive (recipeDrawing some) 0 penneRow).arrive (recipeDrawing some) 0 pieRow

theorem pieCells_run : Run (RecipeScreenStep (fun _ => true) some) .launch (pieEvents.take 6)
    ⟨penneTable, pieCells⟩ := by
  let penneCells := (LoadingPool.empty ⟨none, none, none⟩).use (recipeDrawing some) penneRow 0
  have hsearched : RecipeScreenStep (fun _ => true) some (.launch : RecipeScreen String)
      (.table (.searchRecipes (some "p"))) _ :=
    .table (.searchRecipes .searchRecipes) (by simp) (by simp)
  have hfound := (Run.single hsearched).snoc (e := .table (.answer 0 pennePie))
    (.table (.answer (.answer (by decide))) (by simp) (by simp))
  have hreloaded := hfound.snoc (.table (.runBlock (.runBlock rfl)) (by simp) fun _ _ => rfl)
  have hpenne : RecipeScreenStep (fun _ => true) some ⟨penneTable, .empty ⟨none, none, none⟩⟩
      (.cells (.use (0, penne) 0)) ⟨penneTable, penneCells⟩ :=
    .cellForRowAt (.scroll (by decide) rfl) rfl rfl (.use rfl ⟨Nat.le_refl 0, nofun⟩)
  have hrelease : RecipeScreenStep (fun _ => true) some ⟨penneTable, penneCells⟩
      (.cells (.release penneRow)) ⟨penneTable, penneCells.release penneRow⟩ :=
    .cells (by simp) .release
  have hfree : (penneCells.release penneRow).views.Free 0 := by
    refine ⟨Nat.zero_le _, fun row => ?_⟩
    by_cases hrow : row = penneRow <;>
      simp [penneCells, LoadingPool.release, ViewPool.release, LoadingPool.use, ViewPool.use,
        LoadingPool.empty, ViewPool.empty, hrow]
  have hpie : RecipeScreenStep (fun _ => true) some ⟨penneTable, penneCells.release penneRow⟩
      (.cells (.use (1, pie) 0)) ⟨penneTable, pieCells⟩ :=
    .cellForRowAt (.scroll (by decide) rfl) rfl rfl (.use rfl hfree)
  exact ((hreloaded.snoc hpenne).snoc hrelease).snoc hpie

theorem pieScreen_run : Run (RecipeScreenStep (fun _ => true) some) .launch pieEvents pieScreen :=
  (pieCells_run.snoc (RecipeScreenStep.cells (by simp) (.arrive (by decide)))).snoc
    (RecipeScreenStep.cells (by simp) (.arrive (by decide)))

end MealFinder
end IosProjects
