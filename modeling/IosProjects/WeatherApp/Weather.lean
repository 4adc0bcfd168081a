import IosProjects.Library.Run
import IosProjects.Library.UrlQuery

/-!
# Weather — the city in the field, the forecast asked for and the label

The text of the field goes into the address with its spaces turned into hyphens. Every answer sets
the label and empties the field, whatever has been asked for or typed since. So the label shows the
weather of the city whose answer came last, which is the one asked for last as long as only one
request is in flight at a time.

The server tells the city from the parameter `q` of the address, decoded. The error of a request is
only printed and is left out.
-/

namespace IosProjects
namespace WeatherApp

open IosProjects.Library

/-! ## `WeatherData` -/

structure WeatherContent where
  description : String
  deriving DecidableEq, Repr

structure Weather where
  weather : List WeatherContent
  deriving DecidableEq, Repr

structure WeatherData where
  list : List Weather
  deriving DecidableEq, Repr

/-- What a data task hands to its handler: what the decoder makes of the data, if data came and if
it can be decoded. -/
structure Response where
  data : Option (Option WeatherData)
  deriving DecidableEq, Repr

def notFound : String :=
  "The weather couldn't be found. Please try again"

/-- The message the handler puts together; `list[0]` and `weather[0]` trap out of range. -/
def Response.message (response : Response) : Option String := do
  let message ←
    match response.data with
    | some (some weatherData) => do
        let first ← weatherData.list[0]?
        let content ← first.weather[0]?
        return content.description
    -- the error of the decoder is printed
    | some none => some ""
    | none => some notFound
  return if message = "" then notFound else message

/-! ## `ViewController` -/

def APIKey : String :=
  "b9c0df8e630328a7feea13a0d2d110b0"

/-- What `replacingOccurrences(of: " ", with: "-")` makes of a character. -/
def hyphen (c : Char) : Char :=
  if c = ' ' then '-' else c

def hyphenated (text : String) : String :=
  String.ofList (text.toList.map hyphen)

def address (text : String) : String :=
  "https://api.openweathermap.org/data/2.5/forecast?q=" ++ hyphenated text ++ "&appid=" ++ APIKey

/-- The texts of the field and of the label. -/
structure ViewController where
  textField : String
  weatherSummary : String
  deriving DecidableEq, Repr

/-- A data task that has not been answered, with the text its address was made of. -/
structure Request where
  number : ℕ
  text : String
  deriving DecidableEq, Repr

structure AppState where
  vc : ViewController
  issued : ℕ
  requests : List Request
  deriving DecidableEq, Repr

namespace AppState

/-- The storyboard leaves both texts empty. -/
def launch : AppState where
  vc := { textField := "", weatherSummary := "" }
  issued := 0
  requests := []

/-- `getWeather(_:)`; a text that gives no address is not asked for. -/
def getWeather (isURL : String → Bool) (s : AppState) : AppState :=
  if isURL (address s.vc.textField) then
    { s with
      issued := s.issued + 1
      requests := s.requests ++ [⟨s.issued, s.vc.textField⟩] }
  else s

/-- What the handler does on the main queue. -/
def answered (request : Request) (message : String) (s : AppState) : AppState :=
  { s with
    vc := { textField := "", weatherSummary := message }
    requests := s.requests.erase request }

end AppState

inductive Event where
  | type (text : String)
  | getWeather
  | answer (request : Request) (response : Response)
  deriving DecidableEq, Repr

/-- `isURL` says which strings `URL(string:)` accepts. -/
inductive Step (isURL : String → Bool) : AppState → Event → AppState → Prop where
  | type {s : AppState} {text : String} :
      Step isURL s (.type text) { s with vc := { s.vc with textField := text } }
  | getWeather {s : AppState} : Step isURL s .getWeather (s.getWeather isURL)
  -- in any order; a response without a first entry ends the app
  | answer {s : AppState} {request : Request} {response : Response} {message : String} :
      request ∈ s.requests → response.message = some message →
      Step isURL s (.answer request response) (s.answered request message)

/-! ## The address -/

/-- The address in front of its query. -/
def forecastPath : List Char :=
  "https://api.openweathermap.org/data/2.5/forecast".toList

/-- The parameter behind the city. -/
def keyParameter : List Char :=
  "appid=b9c0df8e630328a7feea13a0d2d110b0".toList

theorem toList_append_append (a b c d : String) :
    (a ++ b ++ c ++ d).toList = a.toList ++ (b.toList ++ (c.toList ++ d.toList)) := by
  simp only [String.toList_append, List.append_assoc]

theorem toList_address (text : String) :
    (address text).toList =
      forecastPath ++ '?' :: ('q' :: '=' :: text.toList.map hyphen ++ '&' :: keyParameter) := by
  have hfront : "https://api.openweathermap.org/data/2.5/forecast?q=".toList =
      forecastPath ++ ['?', 'q', '='] := by decide
  have hback : "&appid=".toList ++ APIKey.toList = '&' :: keyParameter := by decide
  calc (address text).toList
      = "https://api.openweathermap.org/data/2.5/forecast?q=".toList ++
          ((hyphenated text).toList ++ ("&appid=".toList ++ APIKey.toList)) :=
        toList_append_append _ _ _ _
    _ = (forecastPath ++ ['?', 'q', '=']) ++ (text.toList.map hyphen ++ '&' :: keyParameter) := by
        rw [hfront, hback, hyphenated, String.toList_ofList]
    _ = forecastPath ++ '?' :: ('q' :: '=' :: text.toList.map hyphen ++ '&' :: keyParameter) :=
        List.append_assoc _ _ _

/-- Only spaces become hyphens, so other characters are there exactly if they were typed. -/
theorem mem_map_hyphen_iff {c : Char} (hspace : c ≠ ' ') (hhyphen : c ≠ '-') {cs : List Char} :
    c ∈ cs.map hyphen ↔ c ∈ cs := by
  rw [List.mem_map]
  constructor
  · rintro ⟨d, hd, rfl⟩
    unfold hyphen at hhyphen ⊢
    split at hhyphen
    · exact absurd rfl hhyphen
    · rwa [if_neg ‹_›]
  · exact fun hc => ⟨c, hc, by simp [hyphen, hspace]⟩

theorem hasTriple_map_hyphen_iff {cs : List Char} : HasTriple (cs.map hyphen) ↔ HasTriple cs := by
  have hother : ∀ c, c ≠ ' ' → hyphen c = c := fun c hc => by simp [hyphen, hc]
  refine hasTriple_map_iff (fun c => ?_) fun c => ?_
  · by_cases hspace : c = ' '
    · subst hspace
      decide
    · rw [hother c hspace]
  · by_cases hspace : c = ' '
    · subst hspace
      decide
    · rw [hother c hspace]

theorem fragment_address (text : String) :
    fragment (address text).toList = none ↔ '#' ∉ text.toList := by
  have hpath : '#' ∉ forecastPath := by decide
  have hkey : '#' ∉ keyParameter := by decide
  have htext : '#' ∈ text.toList.map hyphen ↔ '#' ∈ text.toList :=
    mem_map_hyphen_iff (by decide) (by decide)
  rw [fragment, splitFirst_snd_eq_none_iff, toList_address]
  simp only [List.mem_append, List.mem_cons, hpath, hkey, htext, false_or, or_false]
  simp

theorem query_address {text : String} (h : '#' ∉ text.toList) :
    query (address text).toList =
      some ('q' :: '=' :: text.toList.map hyphen ++ '&' :: keyParameter) := by
  have hwhole : '#' ∉ (address text).toList :=
    splitFirst_snd_eq_none_iff.1 ((fragment_address text).2 h)
  have hpath : '?' ∉ forecastPath := by decide
  rw [query, splitFirst_of_notMem hwhole, toList_address, splitFirst_append hpath]

/-! ## What is asked for -/

/-- The address asks for the city: its query has the city, encoded, for `q` and the key for `appid`,
and nothing else. -/
structure AsksFor (strict : Bool) (address city : String) : Prop where
  parameters : ∃ q value, query address.toList = some q ∧
    parameters q = [(['q'], some value), ("appid".toList, some APIKey.toList)] ∧
    percentDecode strict value = some city.toList
  fragment : fragment address.toList = none

/-- The text holds neither of `&` and `#`, nothing that looks like a triple, and no `%` at all in
case the server rejects one that begins no triple. -/
def Plain (strict : Bool) (text : String) : Prop :=
  '&' ∉ text.toList ∧ '#' ∉ text.toList ∧ ¬ HasTriple text.toList ∧
    (strict = true → '%' ∉ text.toList)

theorem parameters_keyParameter :
    parameters keyParameter = [("appid".toList, some APIKey.toList)] := by
  rw [parameters_of_notMem (by decide)]
  decide

section Plain

variable {strict : Bool} {text : String}

theorem percentDecode_hyphenated :
    percentDecode strict (text.toList.map hyphen) = some (hyphenated text).toList ↔
      ¬ HasTriple text.toList ∧ (strict = true → '%' ∉ text.toList) := by
  have hcity : (hyphenated text).toList = text.toList.map hyphen := String.toList_ofList
  rw [hcity, percentDecode_eq_self_iff, hasTriple_map_hyphen_iff,
    mem_map_hyphen_iff (by decide) (by decide)]

/-- The city is not cut exactly when no `&` was typed. -/
theorem amp_mem_city : '&' ∈ 'q' :: '=' :: text.toList.map hyphen ↔ '&' ∈ text.toList := by
  have htext : '&' ∈ text.toList.map hyphen ↔ '&' ∈ text.toList :=
    mem_map_hyphen_iff (by decide) (by decide)
  simp [htext]

theorem splitFirst_city (text : String) : splitFirst '=' ('q' :: '=' :: text.toList.map hyphen) =
    (['q'], some (text.toList.map hyphen)) :=
  @splitFirst_append '=' ['q'] (by decide) _

theorem plain_of_asksFor (h : AsksFor strict (address text) (hyphenated text)) :
    Plain strict text := by
  obtain ⟨⟨q, value, hq, hparameters, hdecode⟩, hfragment⟩ := h
  have hhash := (fragment_address text).1 hfragment
  rw [query_address hhash] at hq
  obtain rfl := Option.some.inj hq
  rw [parameters_append, parameters_keyParameter] at hparameters
  -- the key is one of the two parameters, so the city was not cut
  have hone : (parameters ('q' :: '=' :: text.toList.map hyphen)).length = 1 := by
    simpa using congrArg List.length hparameters
  have hwhole := length_parameters_eq_one_iff.1 hone
  rw [parameters_of_notMem hwhole, splitFirst_city] at hparameters
  obtain rfl : text.toList.map hyphen = value := by simpa using hparameters
  exact ⟨amp_mem_city.not.1 hwhole, hhash, percentDecode_hyphenated.1 hdecode⟩

theorem asksFor_of_plain (h : Plain strict text) :
    AsksFor strict (address text) (hyphenated text) := by
  obtain ⟨hnone, hhash, hdecode⟩ := h
  refine ⟨⟨_, text.toList.map hyphen, query_address hhash, ?_, percentDecode_hyphenated.2 hdecode⟩,
    (fragment_address text).2 hhash⟩
  rw [parameters_append, parameters_keyParameter, parameters_of_notMem (amp_mem_city.not.2 hnone),
    splitFirst_city]
  rfl

end Plain

/-- For every text, the forecast asked for is that of the text with hyphens for its spaces if and
only if the text is plain. -/
theorem asksFor_address_iff (strict : Bool) (text : String) :
    AsksFor strict (address text) (hyphenated text) ↔ Plain strict text :=
  ⟨plain_of_asksFor, asksFor_of_plain⟩

/-! ## The label -/

/-- The text asked for last, and the one whose answer came last with that answer. -/
structure History where
  searched : Option String
  arrived : Option (String × Response)
  deriving DecidableEq, Repr

def History.start : History where
  searched := none
  arrived := none

def record (isURL : String → Bool) (s : AppState) (e : Event) (_ : AppState) (h : History) :
    History :=
  match e with
  | .type _ => h
  | .getWeather =>
      if isURL (address s.vc.textField) then { h with searched := some s.vc.textField } else h
  | .answer request response => { h with arrived := some (request.text, response) }

/-- The answer is one of those for the city that is asked for: any forecast that there is at the
time, or a failure. -/
def Event.Serves (strict : Bool) (answers : String → Response → Prop) : Event → Prop
  | .answer request response => ∀ city, AsksFor strict (address request.text) city →
      answers city response
  | _ => True

/-- The text that is answered is plain. -/
def Event.AnswersPlain (strict : Bool) : Event → Prop
  | .answer request _ => Plain strict request.text
  | _ => True

/-- The label shows the answer that came last, and it is one for its own city. -/
def ShowsArrived (answers : String → Response → Prop) (h : History) (s : AppState) : Prop :=
  ∀ text response, h.arrived = some (text, response) →
    answers (hyphenated text) response ∧ response.message = some s.vc.weatherSummary

/-- Nothing is in flight and the last to be asked for has come, or it is the only one in flight. -/
def OneInFlight (h : History) (s : AppState) : Prop :=
  s.requests = [] ∧ h.arrived.map Prod.fst = h.searched ∨
    ∃ request, s.requests = [request] ∧ h.searched = some request.text

/-- Two texts are asked for one after the other and answered in the opposite order. -/
def overtakingEvents (issued : ℕ) (first last : String) (forFirst forLast : Response) :
    List Event :=
  [.type first, .getWeather, .type last, .getWeather, .answer ⟨issued + 1, last⟩ forLast,
    .answer ⟨issued, first⟩ forFirst]

section Label

variable {isURL : String → Bool} {strict : Bool} {answers : String → Response → Prop}
  {s t : AppState} {h : History} {e : Event} {es : List Event}

theorem Step.showsArrived (hshows : ShowsArrived answers h s) (hserves : e.Serves strict answers)
    (hplain : e.AnswersPlain strict) (hstep : Step isURL s e t) :
    ShowsArrived answers (record isURL s e t h) t := by
  cases hstep with
  | type => exact hshows
  | getWeather =>
      unfold record AppState.getWeather
      dsimp only
      split <;> exact hshows
  | @answer request response message hmem hmessage =>
      rintro _ _ ⟨⟩
      have hasks : AsksFor strict (address request.text) (hyphenated request.text) :=
        asksFor_of_plain hplain
      exact ⟨hserves _ hasks, hmessage⟩

theorem Step.oneInFlight (hone : OneInFlight h s) (hquiet : e = .getWeather → s.requests = [])
    (hstep : Step isURL s e t) : OneInFlight (record isURL s e t h) t := by
  cases hstep with
  | type => exact hone
  | getWeather =>
      unfold record AppState.getWeather
      dsimp only
      split
      · exact Or.inr ⟨_, by rw [hquiet rfl]; rfl, rfl⟩
      · exact hone
  | @answer request response message hmem _ =>
      rcases hone with ⟨hnone, _⟩ | ⟨only, honly, hsearched⟩
      · rw [hnone] at hmem
        cases hmem
      · rw [honly] at hmem
        obtain rfl := List.mem_singleton.1 hmem
        refine Or.inl ⟨?_, hsearched.symm⟩
        rw [AppState.answered, honly, List.erase_cons_head]

/-- A text is typed and asked for. -/
theorem press_run (s : AppState) (h : History) {text : String}
    (hurl : isURL (address text) = true) :
    Run (withHistory (Step isURL) (record isURL)) (s, h) [.type text, .getWeather]
      (⟨{ s.vc with textField := text }, s.issued + 1, s.requests ++ [⟨s.issued, text⟩]⟩,
        { h with searched := some text }) := by
  have htyped : Run (withHistory (Step isURL) (record isURL)) (s, h) [.type text]
      ({ s with vc := { s.vc with textField := text } }, h) := (Run.nil _).snoc_history .type
  have hasked := htyped.snoc_history .getWeather
  simpa [AppState.getWeather, record, hurl] using hasked

/-- A press while an answer is still to come: the later text is answered first, and the label is
left with the answer for the earlier one. -/
theorem overtaking_run {first last : String} (hfirst : isURL (address first) = true)
    (hlast : isURL (address last) = true) {forFirst forLast : Response} {message message' : String}
    (hmessage : forFirst.message = some message) (hmessage' : forLast.message = some message') :
    ∃ t, Run (withHistory (Step isURL) (record isURL)) (s, h)
        (overtakingEvents s.issued first last forFirst forLast)
        (t, ⟨some last, some (first, forFirst)⟩) ∧
      t.vc.weatherSummary = message := by
  let earlier : Request := ⟨s.issued, first⟩
  let later : Request := ⟨s.issued + 1, last⟩
  have hboth := (press_run s h hfirst).trans (press_run _ _ hlast)
  have hlater : later ∈ s.requests ++ [earlier] ++ [later] := by simp
  have hearlier : earlier ∈ (s.requests ++ [earlier] ++ [later]).erase later := by
    refine (List.mem_erase_of_ne ?_).2 (by simp)
    simp [earlier, later]
  have hanswered := (hboth.snoc_history (Step.answer hlater hmessage')).snoc_history
    (Step.answer hearlier hmessage)
  exact ⟨_, hanswered, rfl⟩

/-- When every text that is answered is plain, the label shows the answer that came last, which is
one for its own city. As long as the button is only pressed with nothing in flight, that is the city
asked for last; from any state on, it is another one if two presses are answered in the opposite
order. -/
theorem label_shows_last_city
    (hrun : Run (withHistory (Step isURL) (record isURL)) (.launch, .start) es (s, h))
    (hserves : ∀ e ∈ es, e.Serves strict answers) (hplain : ∀ e ∈ es, e.AnswersPlain strict) :
    ShowsArrived answers h s ∧
      (Along (withHistory (Step isURL) (record isURL)) (.launch, .start) es
          (fun p e _ => e = .getWeather → p.1.requests = []) →
        s.requests = [] → h.arrived.map Prod.fst = h.searched) ∧
      ∀ first last forFirst forLast message message', isURL (address first) = true →
        isURL (address last) = true → forFirst.message = some message →
        forLast.message = some message' →
        ∃ t, Run (withHistory (Step isURL) (record isURL)) (s, h)
            (overtakingEvents s.issued first last forFirst forLast)
            (t, ⟨some last, some (first, forFirst)⟩) ∧
          t.vc.weatherSummary = message := by
  refine ⟨?_, ?_, fun _ _ _ _ _ _ hfirst hlast hmessage hmessage' =>
    overtaking_run hfirst hlast hmessage hmessage'⟩
  · refine hrun.invariant_along (P := fun p => ShowsArrived answers p.2 p.1)
      (Q := fun _ e _ => e.Serves strict answers ∧ e.AnswersPlain strict) ?_
      (Along.of_events fun e he => ⟨hserves e he, hplain e he⟩) nofun
    rintro ⟨s, h⟩ e ⟨t, h'⟩ hshows ⟨hserves, hplain⟩ ⟨hstep, hrecord⟩
    obtain rfl : h' = record isURL s e t h := hrecord
    exact hstep.showsArrived hshows hserves hplain
  · intro hquiet hrequests
    have hone : OneInFlight h s := by
      refine hrun.invariant_along (P := fun p => OneInFlight p.2 p.1)
        (Q := fun p e _ => e = .getWeather → p.1.requests = []) ?_ hquiet (Or.inl ⟨rfl, rfl⟩)
      rintro ⟨s, h⟩ e ⟨t, h'⟩ hone hquiet ⟨hstep, hrecord⟩
      obtain rfl : h' = record isURL s e t h := hrecord
      exact hstep.oneInFlight hone hquiet
    rcases hone with ⟨_, hsame⟩ | ⟨request, honly, _⟩
    · exact hsame
    · rw [hrequests] at honly
      cases honly

end Label

/-! ### New York -/

def rain : Response where
  data := some (some ⟨[⟨[⟨"light rain"⟩]⟩]⟩)

def noData : Response where
  data := none

/-- The first request fails, and the second is answered. -/
def newYorkEvents : List Event :=
  [.type "New York", .getWeather, .answer ⟨0, "New York"⟩ noData, .type "New York", .getWeather,
    .answer ⟨1, "New York"⟩ rain]

/-- Rain has been announced, and the field is empty. -/
def newYorkShown : AppState where
  vc := { textField := "", weatherSummary := "light rain" }
  issued := 2
  requests := []

theorem newYork_run : Run (withHistory (Step fun _ => true) (record fun _ => true))
    (.launch, .start) newYorkEvents (newYorkShown, ⟨some "New York", some ("New York", rain)⟩) := by
  have hasked := @press_run (fun _ => true) .launch .start "New York" rfl
  have hfailed := hasked.snoc_history
    (@Step.answer _ _ _ noData notFound (List.mem_singleton_self _) (by decide))
  have hagain := hfailed.trans (@press_run (fun _ => true) _ _ "New York" rfl)
  exact hagain.snoc_history
    (@Step.answer _ _ _ rain "light rain" (List.mem_singleton_self _) (by decide))

/-- The label shows the rain; then New York and Paris are asked for, and Paris is answered first. -/
theorem newYork_shown :
    ShowsArrived (fun _ response => response = rain ∨ response = noData)
        ⟨some "New York", some ("New York", rain)⟩ newYorkShown ∧
      ∃ t, Run (withHistory (Step fun _ => true) (record fun _ => true))
          (newYorkShown, ⟨some "New York", some ("New York", rain)⟩)
          (overtakingEvents 2 "New York" "Paris" rain noData)
          (t, ⟨some "Paris", some ("New York", rain)⟩) ∧
        t.vc.weatherSummary = "light rain" := by
  have hplain : Plain true "New York" :=
    ⟨by decide, by decide, by simp [HasTriple], fun _ => by decide⟩
  obtain ⟨hshows, _, hovertaken⟩ := @label_shows_last_city _ true
    (fun _ response => response = rain ∨ response = noData) _ _ _ newYork_run
    (by simp [newYorkEvents, Event.Serves]) (by simpa [newYorkEvents, Event.AnswersPlain])
  exact ⟨hshows, hovertaken "New York" "Paris" rain noData "light rain" notFound rfl rfl (by decide)
    (by decide)⟩

end WeatherApp
end IosProjects
