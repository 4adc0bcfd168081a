import IosProjects.Library.Run

/-!
# Recipes — searches in flight and the list they fill

A search clears `meals` when it is issued; every completion appends its recipes to whatever `meals`
holds then, in whatever order the completions arrive. The background of the table is set by a queued
block after a search without a result. The cells of the table are left out.
-/

namespace IosProjects
namespace MealFinder

open IosProjects.Library

structure Recipe where
  idMeal : String
  strMeal : String
  strCategory : String
  strSource : String
  strMealThumb : String
  deriving DecidableEq, Repr

structure Recipes where
  meals : List Recipe
  deriving DecidableEq, Repr

/-! ## `NetworkManager` -/

/-- The address `searchRecipes(withQuery:completion:)` asks. -/
def searchAddress (query : String) : String :=
  "https://www.themealdb.com/api/json/v1/1/search.php?s=" ++ query

/-- What a data task hands to its handler; `data` is what the decoder makes of the data, if data
came and if it can be decoded. -/
structure Response where
  data : Option (Option Recipes)
  error : Option String
  deriving DecidableEq, Repr

/-- What the handler of the data task hands to the completion. -/
def Response.recipes (response : Response) : Option (List Recipe) :=
  match response.error with
  | some _ => none
  | none =>
      match response.data with
      | none => none
      | some none => none
      | some (some result) => some result.meals

/-! ## `RecipesViewController` -/

/-- `UITableViewCell.SeparatorStyle`. -/
inductive SeparatorStyle where
  | none
  | singleLine
  deriving DecidableEq, Repr

/-- `backgroundView` is the text of the label set as the background of the table. -/
structure RecipesViewController where
  meals : List Recipe
  resultsNotFound : Bool
  backgroundView : Option String
  separatorStyle : SeparatorStyle
  deriving DecidableEq, Repr

/-- A block on the main queue; `reloadData` is the one that only reloads the table. -/
inductive Block where
  | reloadData
  | emptyResults
  deriving DecidableEq, Repr

/-- `text.replacingOccurrences(of: " ", with: "%20")`. -/
def escapeSpaces (text : String) : String :=
  String.ofList (text.toList.flatMap fun c => if c = ' ' then ['%', '2', '0'] else [c])

/-- The query for a text, if the text is searched for. -/
def searchQuery (text : Option String) : Option String :=
  match text with
  | some text => if text = "" then none else some (escapeSpaces text)
  | none => none

namespace RecipesViewController

/-- The handler of a search. -/
def completion (recipes : Option (List Recipe)) (vc : RecipesViewController) :
    RecipesViewController :=
  match recipes with
  -- nothing says which search the recipes are for
  | some recipes => { vc with resultsNotFound := false, meals := vc.meals ++ recipes }
  | none => { vc with resultsNotFound := true }

/-- The block that the handler puts on the main queue. -/
def completionBlock (recipes : Option (List Recipe)) : Block :=
  match recipes with
  | some _ => .reloadData
  | none => .emptyResults

/-- `emptyResults()`. -/
def emptyResults (vc : RecipesViewController) : RecipesViewController :=
  { vc with backgroundView := some "No Data", separatorStyle := .none }

def run (block : Block) (vc : RecipesViewController) : RecipesViewController :=
  match block with
  | .reloadData => vc
  | .emptyResults => vc.emptyResults

end RecipesViewController

/-! ## Steps -/

/-- Searches are numbered in the order in which they are issued; `requests` are those that have not
been answered, and `blocks` is the main queue. -/
structure AppState where
  viewController : RecipesViewController
  issued : ℕ
  requests : List ℕ
  blocks : List Block
  deriving DecidableEq, Repr

namespace AppState

def launch : AppState where
  viewController :=
    { meals := []
      resultsNotFound := false
      backgroundView := none
      separatorStyle := .singleLine }
  issued := 0
  requests := []
  blocks := []

/-- The completion of a search runs. -/
def completed (recipes : Option (List Recipe)) (s : AppState) : AppState :=
  { s with
    viewController := s.viewController.completion recipes
    blocks := s.blocks ++ [RecipesViewController.completionBlock recipes] }

/-- `searchRecipes()`, with the text in the field. A query that gives no address is answered at
once. -/
def searchRecipes (isURL : String → Bool) (text : Option String) (s : AppState) : AppState :=
  match searchQuery text with
  | none => s
  | some query =>
      -- the background stays, if there is one
      let cleared : AppState :=
        { s with viewController := { s.viewController with meals := [] }, issued := s.issued + 1 }
      if isURL (searchAddress query) then
        { cleared with requests := s.requests ++ [s.issued] }
      else
        cleared.completed none

/-- The data task of a search answers. -/
def answered (search : ℕ) (response : Response) (s : AppState) : AppState :=
  { s with requests := s.requests.erase search }.completed response.recipes

end AppState

inductive Event where
  | searchRecipes (text : Option String)
  | answer (search : ℕ) (response : Response)
  | runBlock
  deriving DecidableEq, Repr

/-- `isURL` says which strings `URL(string:)` accepts. -/
inductive Step (isURL : String → Bool) : AppState → Event → AppState → Prop where
  | searchRecipes {s : AppState} {text : Option String} :
      Step isURL s (.searchRecipes text) (s.searchRecipes isURL text)
  -- in any order, and with any response
  | answer {s : AppState} {search : ℕ} {response : Response} :
      search ∈ s.requests → Step isURL s (.answer search response) (s.answered search response)
  | runBlock {s : AppState} {block : Block} {blocks : List Block} :
      s.blocks = block :: blocks →
      Step isURL s .runBlock
        { s with viewController := s.viewController.run block, blocks := blocks }

end MealFinder
end IosProjects
