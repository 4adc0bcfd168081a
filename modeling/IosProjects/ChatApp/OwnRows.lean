import IosProjects.ChatApp.InboxCells

/-!
# OwnRows — whose name, date and picture a cell shows

The history of a run knows for which message each cell was configured last, which lookup completed
last for it and which picture was put into it last. When everything has arrived, a cell shows the
data of its own row exactly when those last ones were for its own row, or brought the same as one
that was.
-/

namespace IosProjects
namespace ChatApp

open IosProjects.Library

/-! ## Histories -/

/-- A lookup that has completed, with what it brought and when. -/
structure Completed where
  lookup : Lookup
  answer : UserAnswer
  currentDate : TimeInterval

def Completed.timestampText (F : DateFormatting) (c : Completed) : String :=
  convertTimestampToString F c.currentDate c.lookup.message.timestamp

/-- `configured` is the lookup a cell was configured with last, and `loaded` are the pictures that
were loaded from each address. -/
structure CellHistory where
  configured : CellID → Option Lookup
  completed : List Completed
  lastCompleted : CellID → Option Completed
  lastImage : CellID → Option LoadedImage
  loaded : List (String × UIImage)

/-- The picture that the completion of a lookup finds in the cache. -/
def InboxCells.cachedImage (s : InboxCells) (lookup : Lookup) (answer : UserAnswer) :
    Option LoadedImage :=
  answer.profileImageUrl.bind fun urlString =>
    (s.imageCache urlString).map fun image =>
      { lookup := lookup, urlString := urlString, image := image }

namespace CellHistory

def start : CellHistory where
  configured := fun _ => none
  completed := []
  lastCompleted := fun _ => none
  lastImage := fun _ => none
  loaded := []

/-- A picture is put into its cell, if there is one. -/
def showImage (image : Option LoadedImage) (h : CellHistory) : CellHistory :=
  match image with
  | some image =>
      { h with lastImage := Function.update h.lastImage image.lookup.cell (some image) }
  | none => h

/-- A lookup completes. -/
def complete (c : Completed) (h : CellHistory) : CellHistory :=
  { h with
    completed := h.completed ++ [c]
    lastCompleted := Function.update h.lastCompleted c.lookup.cell (some c) }

def load (urlString : String) (image : UIImage) (h : CellHistory) : CellHistory :=
  { h with loaded := h.loaded ++ [(urlString, image)] }

/-- What an event adds to the history. -/
def record (s : InboxCells) (e : InboxCellsEvent) (_ : InboxCells) (h : CellHistory) :
    CellHistory :=
  match e with
  | .cellForRowAt row cell =>
      match s.inbox.messages[row]? with
      | some message =>
          { h with configured :=
            Function.update h.configured cell (some (s.lookupFor cell message)) }
      | none => h
  | .answer lookup document currentDate =>
      (h.complete ⟨lookup, getUserData document, currentDate⟩).showImage
        (s.cachedImage lookup (getUserData document))
  | .downloaded download (some image) => h.load download.urlString image
  | .runBlock => h.showImage s.blocks.head?
  | .cacheImage urlString image => h.load urlString image
  | _ => h

/-- The address was found for the lookup. -/
def Found (h : CellHistory) (lookup : Lookup) (urlString : String) : Prop :=
  ∃ c ∈ h.completed, c.lookup = lookup ∧ c.answer.profileImageUrl = some urlString

/-- The picture was loaded from an address found for the user. -/
def PictureOf (h : CellHistory) (userId : String) (image : UIImage) : Prop :=
  ∃ lookup urlString, lookup.userId = userId ∧ h.Found lookup urlString ∧
    (urlString, image) ∈ h.loaded

end CellHistory

/-! ## The cell and the condition -/

/-- The cell shows the data of the row it was last configured for: the text of the message, the name
and the date that a lookup for the message brought, and the placeholder or a picture of the
partner. -/
structure ShowsOwnRow (F : DateFormatting) (h : CellHistory) (lookup : Lookup)
    (cell : MessageCell) : Prop where
  message : cell.messageLabel = some lookup.message.body
  texts : ∃ c ∈ h.completed, c.lookup.message = lookup.message ∧
    cell.nameLabel = some c.answer.fullName ∧ cell.timestampLabel = some (c.timestampText F)
  image : cell.image = .placeholder ∨
    ∃ image, cell.image = .loaded image ∧ h.PictureOf lookup.userId image

/-- The lookup that completed last for the cell was for its message, and the picture that arrived
last was requested for its partner; or they brought what one for its own row has brought as well. -/
structure ArrivedInOrder (F : DateFormatting) (h : CellHistory) (lookup : Lookup) : Prop where
  texts : ∀ last, h.lastCompleted lookup.cell = some last → last.lookup.message = lookup.message ∨
    ∃ c ∈ h.completed, c.lookup.message = lookup.message ∧
      c.answer.fullName = last.answer.fullName ∧ c.timestampText F = last.timestampText F
  image : ∀ last, h.lastImage lookup.cell = some last → last.lookup.userId = lookup.userId ∨
    h.PictureOf lookup.userId last.image

/-! ## What the history knows -/

/-- The history knows what is on the cells. -/
structure CellRecorded (F : DateFormatting) (h : CellHistory) (cell : CellID)
    (shown : MessageCell) : Prop where
  messageLabel : shown.messageLabel = (h.configured cell).map fun lookup => lookup.message.body
  nameLabel : shown.nameLabel = (h.lastCompleted cell).map fun c => c.answer.fullName
  timestampLabel : shown.timestampLabel = (h.lastCompleted cell).map fun c => c.timestampText F
  image : shown.image =
    ((h.lastImage cell).map fun loaded => CellImage.loaded loaded.image).getD .placeholder

/-- It knows where a picture comes from. -/
structure ImageRecorded (h : CellHistory) (image : LoadedImage) : Prop where
  found : h.Found image.lookup image.urlString
  loaded : (image.urlString, image.image) ∈ h.loaded

structure Recorded (F : DateFormatting) (h : CellHistory) (s : InboxCells) : Prop where
  cells : ∀ cell, CellRecorded F h cell (s.cells cell)
  configured : ∀ cell lookup, h.configured cell = some lookup →
    lookup.cell = cell ∧ (lookup ∈ s.lookups ∨ (h.lastCompleted cell).isSome)
  lastCompleted : ∀ cell c, h.lastCompleted cell = some c → c ∈ h.completed
  lastImage : ∀ cell image, h.lastImage cell = some image → ImageRecorded h image
  blocks : ∀ image ∈ s.blocks, ImageRecorded h image
  downloads : ∀ download ∈ s.downloads, h.Found download.lookup download.urlString
  imageCache : ∀ urlString image, s.imageCache urlString = some image →
    (urlString, image) ∈ h.loaded

section Steps

variable {F : DateFormatting} {isURL : String → Bool} {h : CellHistory} {s t : InboxCells}

theorem Recorded.start (inbox : MessagesViewController) : Recorded F .start (.start inbox) where
  cells := fun _ => ⟨rfl, rfl, rfl, rfl⟩
  configured := fun _ _ hnone => nomatch hnone
  lastCompleted := fun _ _ hnone => nomatch hnone
  lastImage := fun _ _ hnone => nomatch hnone
  blocks := by simp [InboxCells.start]
  downloads := by simp [InboxCells.start]
  imageCache := fun _ _ hnone => nomatch hnone

theorem ImageRecorded.of_same {h' : CellHistory} {image : LoadedImage}
    (himage : ImageRecorded h image) (hcompleted : h'.completed = h.completed)
    (hloaded : h'.loaded = h.loaded) : ImageRecorded h' image := by
  rcases himage.found with ⟨c, hc, hfound⟩
  exact ⟨⟨c, hcompleted ▸ hc, hfound⟩, hloaded ▸ himage.loaded⟩

theorem ImageRecorded.complete {image : LoadedImage} (himage : ImageRecorded h image)
    (c : Completed) :
    ImageRecorded (h.complete c) image := by
  rcases himage.found with ⟨c', hc', hfound⟩
  exact ⟨⟨c', List.mem_append_left _ hc', hfound⟩, himage.loaded⟩

theorem ImageRecorded.load {image : LoadedImage} (himage : ImageRecorded h image)
    (urlString : String) (image' : UIImage) : ImageRecorded (h.load urlString image') image :=
  ⟨himage.found, List.mem_append_left _ himage.loaded⟩

namespace Recorded

/-- A cell is configured. -/
theorem cellForRowAt {row : ℕ} {cell : CellID} (hrec : Recorded F h s)
    (hconfigure : s.cellForRowAt row cell = some t) :
    Recorded F (h.record s (.cellForRowAt row cell) t) t := by
  unfold InboxCells.cellForRowAt at hconfigure
  split at hconfigure
  · cases hconfigure
  · rename_i message hmessage
    obtain rfl := Option.some.inj hconfigure
    simp only [CellHistory.record, hmessage]
    refine
      { cells := fun other => ?_
        configured := fun other lookup => ?_
        lastCompleted := hrec.lastCompleted
        lastImage := fun other image himage => (hrec.lastImage other image himage).of_same rfl rfl
        blocks := fun image himage => (hrec.blocks image himage).of_same rfl rfl
        downloads := hrec.downloads
        imageCache := hrec.imageCache }
    · -- only the message label is written at once, the rest waits for the lookup
      by_cases hother : other = cell
      · subst hother
        have hcell := hrec.cells other
        exact ⟨by simp [InboxCells.lookupFor], by simpa using hcell.nameLabel,
          by simpa using hcell.timestampLabel, by simpa using hcell.image⟩
      · have hcell := hrec.cells other
        exact ⟨by simpa [hother] using hcell.messageLabel, by simpa [hother] using hcell.nameLabel,
          by simpa [hother] using hcell.timestampLabel, by simpa [hother] using hcell.image⟩
    · intro hlookup
      by_cases hother : other = cell
      · subst hother
        obtain rfl : s.lookupFor other message = lookup := by simpa using hlookup
        exact ⟨rfl, Or.inl (by simp)⟩
      · have hbefore : h.configured other = some lookup := by simpa [hother] using hlookup
        rcases hrec.configured other lookup hbefore with ⟨hcell, hstarted⟩
        exact ⟨hcell, hstarted.imp_left fun hmem => List.mem_append_left _ hmem⟩

/-- A lookup completes and writes its texts. -/
theorem setTexts (hrec : Recorded F h s) (c : Completed) :
    Recorded F (h.complete c) (s.setTexts F c.lookup c.answer c.currentDate) where
  cells := by
    intro other
    have hcell := hrec.cells other
    -- the cell the lookup was started for, which may show another row by now
    by_cases hother : other = c.lookup.cell
    · subst hother
      exact ⟨by simpa [InboxCells.setTexts, CellHistory.complete] using hcell.messageLabel,
        by simp [InboxCells.setTexts, CellHistory.complete],
        by simp [InboxCells.setTexts, CellHistory.complete, Completed.timestampText],
        by simpa [InboxCells.setTexts, CellHistory.complete] using hcell.image⟩
    · simp only [InboxCells.setTexts, Function.update_of_ne hother]
      refine ⟨hcell.messageLabel, ?_, ?_, hcell.image⟩ <;>
        simp only [CellHistory.complete, Function.update_of_ne hother]
      · exact hcell.nameLabel
      · exact hcell.timestampLabel
  configured := by
    intro other lookup hlookup
    rcases hrec.configured other lookup hlookup with ⟨hcell, hstarted⟩
    -- what has completed for a cell stays completed
    refine ⟨hcell, hstarted.imp_right fun hsome => ?_⟩
    by_cases hother : other = c.lookup.cell
    · simp [CellHistory.complete, hother]
    · simpa [CellHistory.complete, hother] using hsome
  lastCompleted := by
    intro other c' hc'
    by_cases hother : other = c.lookup.cell
    · obtain rfl : c = c' := by simpa [CellHistory.complete, hother] using hc'
      simp [CellHistory.complete]
    · have hbefore : h.lastCompleted other = some c' := by
        simpa [CellHistory.complete, hother] using hc'
      exact List.mem_append_left _ (hrec.lastCompleted other c' hbefore)
  lastImage := fun other image himage => (hrec.lastImage other image himage).complete c
  blocks := fun image himage => (hrec.blocks image himage).complete c
  downloads := by
    intro download hdownload
    rcases hrec.downloads download hdownload with ⟨c', hc', hfound⟩
    exact ⟨c', List.mem_append_left _ hc', hfound⟩
  imageCache := hrec.imageCache

/-- A picture is put into its cell. -/
theorem setImage {image : LoadedImage} (hrec : Recorded F h s) (himage : ImageRecorded h image) :
    Recorded F (h.showImage (some image)) (s.setImage image) := by
  refine
    { cells := fun other => ?_
      configured := hrec.configured
      lastCompleted := hrec.lastCompleted
      lastImage := fun other image' himage' => ?_
      blocks := fun image himage => (hrec.blocks image himage).of_same rfl rfl
      downloads := hrec.downloads
      imageCache := hrec.imageCache }
  · have hcell := hrec.cells other
    -- the texts are left alone in either case
    by_cases hother : other = image.lookup.cell
    · subst hother
      exact ⟨by simpa [InboxCells.setImage, CellHistory.showImage] using hcell.messageLabel,
        by simpa [InboxCells.setImage, CellHistory.showImage] using hcell.nameLabel,
        by simpa [InboxCells.setImage, CellHistory.showImage] using hcell.timestampLabel,
        by simp [InboxCells.setImage, CellHistory.showImage]⟩
    · simp only [InboxCells.setImage, Function.update_of_ne hother]
      refine ⟨hcell.messageLabel, hcell.nameLabel, hcell.timestampLabel, ?_⟩
      simpa [CellHistory.showImage, hother] using hcell.image
  · by_cases hother : other = image.lookup.cell
    · obtain rfl : image = image' := by simpa [CellHistory.showImage, hother] using himage'
      exact himage.of_same rfl rfl
    · have hbefore : h.lastImage other = some image' := by
        simpa [CellHistory.showImage, hother] using himage'
      exact (hrec.lastImage other image' hbefore).of_same rfl rfl

/-- A lookup that has completed is no longer in flight. -/
theorem erase_lookup {lookup : Lookup} (hrec : Recorded F h s)
    (hcompleted : (h.lastCompleted lookup.cell).isSome) :
    Recorded F h { s with lookups := s.lookups.erase lookup } := by
  refine { hrec with configured := fun other lookup' hlookup' => ?_ }
  rcases hrec.configured other lookup' hlookup' with ⟨hcell, hmem | hsome⟩
  · refine ⟨hcell, ?_⟩
    -- the lookup that leaves is known to have completed for its cell
    by_cases hsame : lookup' = lookup
    · subst hsame
      exact Or.inr (hcell ▸ hcompleted)
    · exact Or.inl ((List.mem_erase_of_ne hsame).2 hmem)
  · exact ⟨hcell, Or.inr hsome⟩

/-- A download is started. -/
theorem startDownload {lookup : Lookup} {urlString : String} (hrec : Recorded F h s)
    (hfound : h.Found lookup urlString) :
    Recorded F h { s with
      downloads := s.downloads ++ [{ lookup := lookup, urlString := urlString }] } := by
  refine { hrec with downloads := fun download hdownload => ?_ }
  rcases List.mem_append.1 hdownload with hmem | hnew
  · exact hrec.downloads download hmem
  · obtain rfl := List.mem_singleton.1 hnew
    exact hfound

/-- A download ends. -/
theorem erase_download (hrec : Recorded F h s) (download : Download) :
    Recorded F h { s with downloads := s.downloads.erase download } :=
  { hrec with downloads := fun other hother => hrec.downloads other (List.mem_of_mem_erase hother) }

/-- A picture is loaded into the cache. -/
theorem cache (hrec : Recorded F h s) (urlString : String) (image : UIImage) :
    Recorded F (h.load urlString image)
      { s with imageCache := Function.update s.imageCache urlString (some image) } where
  cells := fun cell => ⟨(hrec.cells cell).messageLabel, (hrec.cells cell).nameLabel,
    (hrec.cells cell).timestampLabel, (hrec.cells cell).image⟩
  configured := hrec.configured
  lastCompleted := hrec.lastCompleted
  lastImage := fun cell shown hshown => (hrec.lastImage cell shown hshown).load urlString image
  blocks := fun block hblock => (hrec.blocks block hblock).load urlString image
  downloads := hrec.downloads
  imageCache := by
    intro other cached hcached
    by_cases hother : other = urlString
    · obtain rfl : image = cached := by simpa [hother] using hcached
      simp [CellHistory.load, hother]
    · have hbefore : s.imageCache other = some cached := by simpa [hother] using hcached
      exact List.mem_append_left _ (hrec.imageCache other cached hbefore)

theorem evict (hrec : Recorded F h s) (urlString : String) :
    Recorded F h { s with imageCache := Function.update s.imageCache urlString none } := by
  refine { hrec with imageCache := fun other cached hcached => ?_ }
  by_cases hother : other = urlString
  · simp [hother] at hcached
  · exact hrec.imageCache other cached (by simpa [hother] using hcached)

/-- A block is put on the main queue. -/
theorem pushBlock {block : LoadedImage} (hrec : Recorded F h s) (hblock : ImageRecorded h block) :
    Recorded F h { s with blocks := s.blocks ++ [block] } := by
  refine { hrec with blocks := fun other hother => ?_ }
  rcases List.mem_append.1 hother with hmem | hnew
  · exact hrec.blocks other hmem
  · obtain rfl := List.mem_singleton.1 hnew
    exact hblock

end Recorded

/-- What the completion of a lookup does after its texts: it sets a cached picture, starts a
download, or does neither. -/
theorem InboxCells.answer_cases (F : DateFormatting) (isURL : String → Bool) (c : Completed)
    (s : InboxCells) {written : InboxCells}
    (hwritten : written = { s.setTexts F c.lookup c.answer c.currentDate with
      lookups := s.lookups.erase c.lookup }) :
    (∃ image, s.cachedImage c.lookup c.answer = some image ∧
      s.answer F isURL c.lookup c.answer c.currentDate = written.setImage image) ∨
    (s.cachedImage c.lookup c.answer = none ∧
      (s.answer F isURL c.lookup c.answer c.currentDate = written ∨
        ∃ urlString, c.answer.profileImageUrl = some urlString ∧
          s.answer F isURL c.lookup c.answer c.currentDate = { written with
            downloads := s.downloads ++ [{ lookup := c.lookup, urlString := urlString }] })) := by
  subst hwritten
  cases hurl : c.answer.profileImageUrl with
  | none => exact Or.inr ⟨by simp [cachedImage, hurl], Or.inl (by simp [answer, setTexts, hurl])⟩
  | some urlString =>
      cases hcached : s.imageCache urlString with
      | some image =>
          refine Or.inl ⟨⟨c.lookup, urlString, image⟩, by simp [cachedImage, hurl, hcached], ?_⟩
          -- the texts and the picture are different fields of one cell
          simp [answer, loadImageUsingCache, setTexts, setImage, hurl, hcached]
      | none =>
          refine Or.inr ⟨by simp [cachedImage, hurl, hcached], ?_⟩
          by_cases hisURL : isURL urlString = true
          · exact Or.inr ⟨urlString, rfl, by
              simp [answer, loadImageUsingCache, setTexts, hurl, hcached, hisURL]⟩
          · exact Or.inl (by simp [answer, loadImageUsingCache, setTexts, hurl, hcached, hisURL])

namespace Recorded

/-- The completion of a lookup runs. -/
theorem answer (hrec : Recorded F h s) (c : Completed) :
    Recorded F ((h.complete c).showImage (s.cachedImage c.lookup c.answer))
      (s.answer F isURL c.lookup c.answer c.currentDate) := by
  have hwritten : Recorded F (h.complete c) { s.setTexts F c.lookup c.answer c.currentDate with
      lookups := s.lookups.erase c.lookup } :=
    (hrec.setTexts c).erase_lookup (by simp [CellHistory.complete])
  -- the address is found for the lookup by the completion itself
  have hfound : ∀ urlString, c.answer.profileImageUrl = some urlString →
      (h.complete c).Found c.lookup urlString :=
    fun urlString hurl => ⟨c, by simp [CellHistory.complete], rfl, hurl⟩
  rcases s.answer_cases F isURL c rfl with ⟨image, hcached, hanswer⟩ | ⟨hcached, hanswer | hanswer⟩
  · rw [hanswer, hcached]
    apply hwritten.setImage
    simp only [InboxCells.cachedImage, Option.bind_eq_some_iff, Option.map_eq_some_iff] at hcached
    rcases hcached with ⟨urlString, hurl, cached, himage, rfl⟩
    exact ⟨hfound urlString hurl, hrec.imageCache urlString cached himage⟩
  · rw [hanswer, hcached]
    exact hwritten
  · rcases hanswer with ⟨urlString, hurl, hanswer⟩
    rw [hanswer, hcached]
    exact hwritten.startDownload (hfound urlString hurl)

/-- Every step keeps the record. -/
theorem step {e : InboxCellsEvent} (hrec : Recorded F h s) (hstep : InboxCellsStep F isURL s e t) :
    Recorded F (h.record s e t) t := by
  cases hstep with
  | loadMessages => exact { hrec with }
  | cellForRowAt hconfigure => exact hrec.cellForRowAt hconfigure
  | @answer lookup document currentDate hmem =>
      exact hrec.answer ⟨lookup, getUserData document, currentDate⟩
  | @downloaded download image hmem =>
      have herased := hrec.erase_download download
      cases image with
      | none => exact herased
      | some image =>
          refine (herased.cache download.urlString image).pushBlock
            ⟨hrec.downloads download hmem, ?_⟩
          exact List.mem_append_right _ (List.mem_singleton_self _)
  | @runBlock block blocks hblocks =>
      have hdropped : Recorded F h { s with blocks := blocks } :=
        { hrec with blocks := fun other hother => hrec.blocks other (hblocks ▸ .tail _ hother) }
      have hhead : h.record s .runBlock (InboxCells.setImage block { s with blocks := blocks }) =
          h.showImage (some block) := by simp [CellHistory.record, hblocks]
      rw [hhead]
      exact hdropped.setImage (hrec.blocks block (hblocks ▸ .head _))
  | cacheImage => exact hrec.cache _ _
  | evictImage => exact hrec.evict _

end Recorded

end Steps

/-! ## Runs -/

section Runs

variable {F : DateFormatting} {isURL : String → Bool}

/-- The cells with their history. -/
abbrev RecordedStep (F : DateFormatting) (isURL : String → Bool) :
    InboxCells × CellHistory → InboxCellsEvent → InboxCells × CellHistory → Prop :=
  withHistory (InboxCellsStep F isURL) fun s e t h => h.record s e t

theorem InboxCellsStep.recorded {e : InboxCellsEvent} {s t : InboxCells}
    (hstep : InboxCellsStep F isURL s e t) (h : CellHistory) :
    RecordedStep F isURL (s, h) e (t, h.record s e t) :=
  ⟨hstep, rfl⟩

theorem recorded_of_run {inbox : MessagesViewController} {es : List InboxCellsEvent}
    {s : InboxCells × CellHistory}
    (hrun : Run (RecordedStep F isURL) (.start inbox, .start) es s) : Recorded F s.2 s.1 := by
  refine hrun.invariant (P := fun s => Recorded F s.2 s.1) ?_ (Recorded.start inbox)
  rintro t e u hrec ⟨hstep, hrecord⟩
  rw [hrecord]
  exact hrec.step hstep

/-- When everything has arrived, a cell shows the data of its own row exactly when what arrived last
for it belongs to that row. -/
theorem Recorded.showsOwnRow_iff {h : CellHistory} {s : InboxCells} {cell : CellID}
    {lookup : Lookup}
    (hrec : Recorded F h s) (hquiet : s.Quiet) (hlookup : h.configured cell = some lookup) :
    ShowsOwnRow F h lookup (s.cells cell) ↔ ArrivedInOrder F h lookup := by
  have hcell := hrec.cells cell
  rcases hrec.configured cell lookup hlookup with ⟨rfl, hstarted⟩
  have hsome : (h.lastCompleted lookup.cell).isSome :=
    hstarted.resolve_left (by simp [hquiet.lookups])
  obtain ⟨last, hlast⟩ := Option.isSome_iff_exists.1 hsome
  -- the cell shows what the last completion has written
  have hname : (s.cells lookup.cell).nameLabel = some last.answer.fullName := by
    simp [hcell.nameLabel, hlast]
  have htime : (s.cells lookup.cell).timestampLabel = some (last.timestampText F) := by
    simp [hcell.timestampLabel, hlast]
  constructor
  · intro hshows
    refine ⟨fun last' hlast' => ?_, fun shown hshown => ?_⟩
    · obtain rfl : last = last' := Option.some.inj (hlast.symm.trans hlast')
      rcases hshows.texts with ⟨c, hc, hmessage, hfull, htext⟩
      exact Or.inr ⟨c, hc, hmessage, Option.some.inj (hfull.symm.trans hname),
        Option.some.inj (htext.symm.trans htime)⟩
    · have himage : (s.cells lookup.cell).image = .loaded shown.image := by
        simp [hcell.image, hshown]
      rcases hshows.image with hplaceholder | ⟨image, hloaded, hpicture⟩
      · exact absurd (hplaceholder.symm.trans himage) (by simp)
      · obtain rfl : image = shown.image := by simpa using hloaded.symm.trans himage
        exact Or.inr hpicture
  · intro harrived
    refine ⟨by simp [hcell.messageLabel, hlookup], ?_, ?_⟩
    · rcases harrived.texts last hlast with hmessage | ⟨c, hc, hmessage, hfull, htext⟩
      · exact ⟨last, hrec.lastCompleted _ _ hlast, hmessage, hname, htime⟩
      · exact ⟨c, hc, hmessage, hfull ▸ hname, htext ▸ htime⟩
    · cases hshown : h.lastImage lookup.cell with
      | none => exact Or.inl (by simp [hcell.image, hshown])
      | some shown =>
          refine Or.inr ⟨shown.image, by simp [hcell.image, hshown], ?_⟩
          rcases harrived.image shown hshown with hpartner | hpicture
          · have hrecorded := hrec.lastImage _ _ hshown
            exact ⟨shown.lookup, shown.urlString, hpartner, hrecorded.found, hrecorded.loaded⟩
          · exact hpicture

/-- Every configured cell shows the data of its own row. -/
def ShowOwnRows (F : DateFormatting) (h : CellHistory) (s : InboxCells) : Prop :=
  ∀ cell lookup, h.configured cell = some lookup → ShowsOwnRow F h lookup (s.cells cell)

/-- Once nothing is in flight, the cells show the data of their own rows exactly when for each of
them the lookup and the picture that arrived last were for its own row, or brought the same. -/
theorem showOwnRows_iff {inbox : MessagesViewController} {es : List InboxCellsEvent}
    {s : InboxCells} {h : CellHistory}
    (hrun : Run (RecordedStep F isURL) (.start inbox, .start) es (s, h)) (hquiet : s.Quiet) :
    ShowOwnRows F h s ↔
      ∀ cell lookup, h.configured cell = some lookup → ArrivedInOrder F h lookup := by
  have hrec : Recorded F h s := recorded_of_run hrun
  constructor
  · intro hshow cell lookup hlookup
    exact (hrec.showsOwnRow_iff hquiet hlookup).1 (hshow cell lookup hlookup)
  · intro harrived cell lookup hlookup
    exact (hrec.showsOwnRow_iff hquiet hlookup).2 (harrived cell lookup hlookup)

end Runs

/-! ## A reused cell -/

/-- Every day is today. -/
def alwaysToday : DateFormatting where
  isDateInSameDayAs := fun _ _ => true
  dayFromTo := fun _ _ => none
  string := fun _ _ => "9:00 AM"

/-- Bob's message above Carol's. -/
def bobAboveCarol : MessagesViewController where
  loggedInUserId := some "alice"
  messages := [⟨"m1", "bob", "alice", "hi", 20⟩, ⟨"m2", "carol", "alice", "hello", 10⟩]
  groupedMessages := ∅

def bobsLookup : Lookup := ⟨0, ⟨"m1", "bob", "alice", "hi", 20⟩, "bob"⟩

def carolsLookup : Lookup := ⟨0, ⟨"m2", "carol", "alice", "hello", 10⟩, "carol"⟩

/-- A user without a picture. -/
def userDocument (firstName lastName : String) : Document where
  documentID := firstName
  data := fun field =>
    if field = "firstName" then some (.string firstName)
    else if field = "lastName" then some (.string lastName)
    else none

def bobsAnswer : InboxCellsEvent := .answer bobsLookup (some (userDocument "Bob" "Brown")) 30

def carolsAnswer : InboxCellsEvent := .answer carolsLookup (some (userDocument "Carol" "Clark")) 30

/-- Bob's cell has been reused for Carol's message, and both lookups are in flight. -/
def reused : InboxCells × CellHistory :=
  ({ InboxCells.start bobAboveCarol with
      cells := Function.update
        (Function.update (fun _ => .new) 0 { MessageCell.new with messageLabel := some "hi" }) 0
        { MessageCell.new with messageLabel := some "hello" }
      lookups := [bobsLookup, carolsLookup] },
    { CellHistory.start with
      configured := Function.update (Function.update (fun _ => none) 0 (some bobsLookup)) 0
        (some carolsLookup) })

theorem run_reused : Run (RecordedStep alwaysToday fun _ => true) (.start bobAboveCarol, .start)
    [.cellForRowAt 0 0, .cellForRowAt 1 0] reused :=
  (Run.single (InboxCellsStep.recorded (.cellForRowAt rfl) _)).snoc
    (InboxCellsStep.recorded (.cellForRowAt rfl) _)

/-- The lookups end in the order in which they were started. -/
theorem carols_name_comes_last : ∃ (s : InboxCells) (h : CellHistory),
    h.configured 0 = some carolsLookup ∧ (s.cells 0).nameLabel = some "Carol Clark" ∧
      (ShowOwnRows alwaysToday h s ↔
        ∀ cell lookup, h.configured cell = some lookup → ArrivedInOrder alwaysToday h lookup) := by
  have hrun : Run (RecordedStep alwaysToday fun _ => true) (.start bobAboveCarol, .start) _ _ :=
    (run_reused.snoc (e := bobsAnswer) (InboxCellsStep.recorded (.answer (.head _)) _)).snoc
      (e := carolsAnswer) (InboxCellsStep.recorded (.answer (.head _)) _)
  exact ⟨_, _, rfl, rfl, showOwnRows_iff hrun ⟨rfl, rfl, rfl⟩⟩

/-- Bob's lookup ends last, and Carol's message is shown under Bob's name. -/
theorem bobs_name_comes_last :
    ¬ ∀ (es : List InboxCellsEvent) (s : InboxCells) (h : CellHistory),
      Run (RecordedStep alwaysToday fun _ => true) (.start bobAboveCarol, .start) es (s, h) →
        s.Quiet → ShowOwnRows alwaysToday h s := by
  intro hshow
  have hrun : Run (RecordedStep alwaysToday fun _ => true) (.start bobAboveCarol, .start) _ _ :=
    (run_reused.snoc (e := carolsAnswer)
      (InboxCellsStep.recorded (.answer (.tail _ (.head _))) _)).snoc
      (e := bobsAnswer) (InboxCellsStep.recorded (.answer (.head _)) _)
  have hcells := hshow _ _ _ hrun
  rcases (hcells ⟨rfl, rfl, rfl⟩ 0 carolsLookup rfl).texts with ⟨c, hc, hmessage, hname, -⟩
  -- only Carol's lookup was for the message, and it did not bring Bob's name
  have hcompleted : c ∈
      ([⟨carolsLookup, getUserData (some (userDocument "Carol" "Clark")), 30⟩,
        ⟨bobsLookup, getUserData (some (userDocument "Bob" "Brown")), 30⟩] : List Completed) := hc
  have hbob : "Bob Brown" = c.answer.fullName := Option.some.inj hname
  revert hmessage hbob
  rcases List.mem_cons.1 hcompleted with rfl | hlast
  · exact fun _ => by decide
  · obtain rfl := List.mem_singleton.1 hlast
    exact fun hmessage => absurd hmessage (by decide)

end ChatApp
end IosProjects
