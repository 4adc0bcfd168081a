import IosProjects.Library.UrlQuery
import IosProjects.MealFinder.Recipes

/-!
# SearchText — the text in the field and the query that is sent

The text is put into the address as it is, but for its spaces. What the server takes for the
parameter `s` is found by cutting the address and decoding the value. An address with a `#`, a
second parameter or a triple that the user has typed says something else.
-/

namespace IosProjects
namespace MealFinder

open IosProjects.Library

/-- The address a search asks, if it asks any. -/
def requestedAddress (isURL : String → Bool) (text : Option String) : Option String :=
  match searchQuery text with
  | none => none
  | some query => if isURL (searchAddress query) then some (searchAddress query) else none

/-! ## The address -/

def isSpace (c : Char) : Bool := c = ' '

theorem escapable_isSpace : Escapable isSpace where
  ascii := by
    intro c hc
    obtain rfl : c = ' ' := by simpa [isSpace] using hc
    decide
  percent := by decide
  hex := by
    intro c hc
    by_contra hspace
    obtain rfl : c = ' ' := by simpa [isSpace] using hspace
    revert hc
    decide

theorem toList_escapeSpaces (text : String) :
    (escapeSpaces text).toList = escape isSpace text.toList := by
  rw [escapeSpaces, String.toList_ofList, escape]
  refine List.flatMap_congr fun c _ => ?_
  by_cases hspace : c = ' '
  · subst hspace
    rfl
  · simp [isSpace, hspace]

/-- The address in front of its query. -/
def searchPath : List Char :=
  "https://www.themealdb.com/api/json/v1/1/search.php".toList

theorem toList_searchAddress (text : String) :
    (searchAddress (escapeSpaces text)).toList =
      searchPath ++ '?' :: 's' :: '=' :: escape isSpace text.toList := by
  have hfront : "https://www.themealdb.com/api/json/v1/1/search.php?s=".toList =
      searchPath ++ ['?', 's', '='] := by decide
  have haddress : searchAddress (escapeSpaces text) =
      "https://www.themealdb.com/api/json/v1/1/search.php?s=" ++ escapeSpaces text := rfl
  rw [haddress, String.toList_append, toList_escapeSpaces, hfront, List.append_assoc,
    List.cons_append, List.cons_append, List.cons_append, List.nil_append]

/-- Characters of no triple are in the escaped text exactly if they were typed. -/
theorem mem_escape_isSpace_iff {c : Char} (hspace : c ≠ ' ') (hpercent : c ≠ '%') (hhex : ¬ IsHex c)
    {cs : List Char} : c ∈ escape isSpace cs ↔ c ∈ cs :=
  mem_escape_iff escapable_isSpace (by simpa [isSpace] using hspace) hpercent hhex

theorem fragment_searchAddress (text : String) :
    fragment (searchAddress (escapeSpaces text)).toList = none ↔ '#' ∉ text.toList := by
  have hpath : '#' ∉ searchPath := by decide
  have htext : '#' ∈ escape isSpace text.toList ↔ '#' ∈ text.toList :=
    mem_escape_isSpace_iff (by decide) (by decide) (by decide)
  rw [fragment, splitFirst_snd_eq_none_iff, toList_searchAddress]
  simp [hpath, htext]

theorem query_searchAddress {text : String} (h : '#' ∉ text.toList) :
    query (searchAddress (escapeSpaces text)).toList =
      some ('s' :: '=' :: escape isSpace text.toList) := by
  have hwhole : '#' ∉ (searchAddress (escapeSpaces text)).toList :=
    splitFirst_snd_eq_none_iff.1 ((fragment_searchAddress text).2 h)
  have hpath : '?' ∉ searchPath := by decide
  rw [query, splitFirst_of_notMem hwhole, toList_searchAddress, splitFirst_append hpath]

/-! ## What is sent -/

/-- The query has the one parameter `s`, whose decoded value is the text, and there is no
fragment. -/
structure SendsText (strict : Bool) (text address : String) : Prop where
  parameter : ∃ q value, query address.toList = some q ∧ parameters q = [(['s'], some value)] ∧
    percentDecode strict value = some text.toList
  fragment : fragment address.toList = none

/-- For every text a request is issued for: the server gets that text and nothing else if and only
if the text has neither of `&` and `#`, nothing that looks like a triple, and no `%` at all in case
the server rejects one that begins no triple. -/
theorem sendsText_iff {isURL : String → Bool} {text address : String} (strict : Bool)
    (hrequest : requestedAddress isURL (some text) = some address) :
    SendsText strict text address ↔
      '&' ∉ text.toList ∧ '#' ∉ text.toList ∧ ¬ HasTriple text.toList ∧
        (strict = true → '%' ∉ text.toList) := by
  have haddress : address = searchAddress (escapeSpaces text) := by
    by_cases hempty : text = ""
    · simp [requestedAddress, searchQuery, hempty] at hrequest
    · simp only [requestedAddress, searchQuery, hempty, if_false] at hrequest
      exact (Option.some.inj (Option.ite_none_right_eq_some.1 hrequest).2).symm
  subst haddress
  by_cases hhash : '#' ∈ text.toList
  · refine iff_of_false ?_ fun hcond => hcond.2.1 hhash
    exact fun hsends => (fragment_searchAddress text).1 hsends.fragment hhash
  · have hquery := query_searchAddress hhash
    have hamp : '&' ∈ 's' :: '=' :: escape isSpace text.toList ↔ '&' ∈ text.toList := by
      have htext : '&' ∈ escape isSpace text.toList ↔ '&' ∈ text.toList :=
        mem_escape_isSpace_iff (by decide) (by decide) (by decide)
      simp [htext]
    have hvalue : splitFirst '=' ('s' :: '=' :: escape isSpace text.toList) =
        (['s'], some (escape isSpace text.toList)) :=
      @splitFirst_append '=' ['s'] (by decide) _
    constructor
    · rintro ⟨⟨q, value, hq, hparameters, hdecode⟩, _⟩
      obtain rfl := Option.some.inj (hquery.symm.trans hq)
      -- one parameter, so the query was not cut at all
      have hwhole : '&' ∉ 's' :: '=' :: escape isSpace text.toList :=
        length_parameters_eq_one_iff.1 (congrArg List.length hparameters)
      rw [parameters_of_notMem hwhole, hvalue] at hparameters
      obtain rfl : escape isSpace text.toList = value := by simpa using hparameters
      exact ⟨hamp.not.1 hwhole, hhash, (percentDecode_escape_iff escapable_isSpace).1 hdecode⟩
    · rintro ⟨hnone, _, hdecode⟩
      refine ⟨⟨_, escape isSpace text.toList, hquery, ?_, ?_⟩,
        (fragment_searchAddress text).2 hhash⟩
      · rw [parameters_of_notMem (hamp.not.2 hnone), hvalue]
      · exact (percentDecode_escape_iff escapable_isSpace).2 hdecode

theorem garlic_bread_sent :
    SendsText true "garlic bread" (searchAddress (escapeSpaces "garlic bread")) :=
  (@sendsText_iff (fun _ => true) "garlic bread" _ true
    (by simp [requestedAddress, searchQuery])).2
    ⟨by decide, by decide, by simp [HasTriple], fun _ => by decide⟩

/-- The text that follows an `&` is another parameter, and the search is for what comes before
it. -/
theorem salt_and_pepper_cut :
    ¬ ∀ (isURL : String → Bool) (strict : Bool) (text address : String),
      requestedAddress isURL (some text) = some address → SendsText strict text address := by
  intro hsends
  have hsent :=
    hsends (fun _ => true) true "salt&pepper" (searchAddress (escapeSpaces "salt&pepper"))
    (by simp [requestedAddress, searchQuery])
  obtain ⟨⟨q, value, hq, hparameters, _⟩, _⟩ := hsent
  have hnone : '&' ∉ q := length_parameters_eq_one_iff.1 (congrArg List.length hparameters)
  rw [query_searchAddress (by decide)] at hq
  obtain rfl := Option.some.inj hq
  revert hnone
  rw [List.mem_cons, List.mem_cons, mem_escape_isSpace_iff (by decide) (by decide) (by decide)]
  decide

end MealFinder
end IosProjects
