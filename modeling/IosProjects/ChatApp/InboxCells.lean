import Mathlib.Logic.Function.Basic
import IosProjects.ChatApp.Register

/-!
# InboxCells — reused cells and the lookups that fill them

A cell is configured with the text of its message at once; the name, the date and the picture are
filled in by the completion of a lookup, and the picture by a download after it. A cell that is
configured again may still be filled in by the lookups and downloads of the rows it showed before.
The picture is never set back to the placeholder.
-/

namespace IosProjects
namespace ChatApp

open IosProjects.Library

/-! ## Dates -/

/-- What is used of `Calendar.current` and `DateFormatter`. -/
structure DateFormatting where
  isDateInSameDayAs : TimeInterval → TimeInterval → Bool
  dayFromTo : TimeInterval → TimeInterval → Option ℤ
  string : String → TimeInterval → String

/-- `DateUtils.convertTimestampToString(timestamp:)`. -/
def convertTimestampToString (F : DateFormatting) (currentDate timestamp : TimeInterval) : String :=
  if F.isDateInSameDayAs timestamp currentDate then F.string "h:mm a" timestamp
  else
    match F.dayFromTo timestamp currentDate with
    | some daysAgo =>
        if daysAgo < 7 then F.string "EEEE" timestamp else F.string "M/d/yy" timestamp
    | none => F.string "M/d/yy" timestamp

/-! ## Cells and requests -/

abbrev CellID := ℕ

inductive CellImage where
  | placeholder
  | loaded (image : UIImage)
  deriving DecidableEq, Repr

structure MessageCell where
  messageLabel : Option String
  nameLabel : Option String
  timestampLabel : Option String
  image : CellImage
  deriving DecidableEq, Repr

/-- `MessageCell.init(style:reuseIdentifier:)`. -/
def MessageCell.new : MessageCell where
  messageLabel := none
  nameLabel := none
  timestampLabel := none
  image := .placeholder

/-- A call of `getUserData`, with what its completion knows. -/
structure Lookup where
  cell : CellID
  message : Message
  userId : String
  deriving DecidableEq, Repr

/-- What the completion of `getUserData` is called with. -/
structure UserAnswer where
  firstName : Option String
  lastName : Option String
  profileImageUrl : Option String
  deriving DecidableEq, Repr

/-- The completion of `getDocument` in `getUserData(userId:completion:)`. -/
def getUserData (document : Option Document) : UserAnswer :=
  match document with
  | some document =>
      { firstName := asString (document.data "firstName")
        lastName := asString (document.data "lastName")
        profileImageUrl := asString (document.data "profileImageUrl") }
  | none => { firstName := none, lastName := none, profileImageUrl := none }

/-- The text of the name label. -/
def UserAnswer.fullName (answer : UserAnswer) : String :=
  match answer.firstName, answer.lastName with
  | some firstName, some lastName => s!"{firstName} {lastName}"
  | _, _ => ""

/-- A data task of `loadImageUsingCache(urlString:)`, for the cell of the lookup that started it. -/
structure Download where
  lookup : Lookup
  urlString : String
  deriving DecidableEq, Repr

/-- A picture that has been loaded for a cell, in the block that will set it. -/
structure LoadedImage where
  lookup : Lookup
  urlString : String
  image : UIImage
  deriving DecidableEq, Repr

/-! ## The screen -/

/-- `imageCache` is shared by all screens and may drop an image at any time; `blocks` is the main
queue. -/
structure InboxCells where
  inbox : MessagesViewController
  cells : CellID → MessageCell
  lookups : List Lookup
  downloads : List Download
  imageCache : String → Option UIImage
  blocks : List LoadedImage

namespace InboxCells

/-- No cell has been configured. -/
def start (inbox : MessagesViewController) : InboxCells where
  inbox := inbox
  cells := fun _ => .new
  lookups := []
  downloads := []
  imageCache := fun _ => none
  blocks := []

/-- The lookup for a message in a cell. -/
def lookupFor (cell : CellID) (message : Message) (s : InboxCells) : Lookup where
  cell := cell
  message := message
  userId :=
    if some message.senderId = s.inbox.loggedInUserId then message.receiverId else message.senderId

/-- `tableView(_:cellForRowAt:)` with the cell it dequeues; `messages[indexPath.row]` traps out of
range. -/
def cellForRowAt (row : ℕ) (cell : CellID) (s : InboxCells) : Option InboxCells :=
  match s.inbox.messages[row]? with
  | none => none
  | some message =>
      some { s with
        cells := Function.update s.cells cell
          { s.cells cell with messageLabel := some message.body }
        lookups := s.lookups ++ [s.lookupFor cell message] }

/-- `loadImageUsingCache(urlString:)`, called for the cell of a lookup. -/
def loadImageUsingCache (isURL : String → Bool) (lookup : Lookup) (urlString : String)
    (s : InboxCells) : InboxCells :=
  match s.imageCache urlString with
  | some cachedImage =>
      { s with
        cells := Function.update s.cells lookup.cell
          { s.cells lookup.cell with image := .loaded cachedImage } }
  | none =>
      if isURL urlString then
        { s with downloads := s.downloads ++ [{ lookup := lookup, urlString := urlString }] }
      else s

/-- The texts the completion of a lookup writes. -/
def setTexts (F : DateFormatting) (lookup : Lookup) (answer : UserAnswer)
    (currentDate : TimeInterval) (s : InboxCells) : InboxCells :=
  { s with
    cells := Function.update s.cells lookup.cell
      { s.cells lookup.cell with
        nameLabel := some answer.fullName
        timestampLabel :=
          some (convertTimestampToString F currentDate lookup.message.timestamp) } }

/-- The completion of a lookup runs. -/
def answer (F : DateFormatting) (isURL : String → Bool) (lookup : Lookup) (answer : UserAnswer)
    (currentDate : TimeInterval) (s : InboxCells) : InboxCells :=
  let s : InboxCells := { s with lookups := s.lookups.erase lookup }
  -- the cell is written to whichever row it shows by now
  let s := match answer.profileImageUrl with
    | some profileImageUrl => s.loadImageUsingCache isURL lookup profileImageUrl
    | none => s
  s.setTexts F lookup answer currentDate

/-- The handler of a data task runs; there is no image when the download failed or is no picture. -/
def downloaded (download : Download) (image : Option UIImage) (s : InboxCells) : InboxCells :=
  let s : InboxCells := { s with downloads := s.downloads.erase download }
  match image with
  | none => s
  -- the cache is filled at once, the cell by a block
  | some downloadedImage =>
      { s with
        imageCache := Function.update s.imageCache download.urlString (some downloadedImage)
        blocks := s.blocks ++
          [{ lookup := download.lookup
             urlString := download.urlString
             image := downloadedImage }] }

/-- The block that sets a picture runs. -/
def setImage (block : LoadedImage) (s : InboxCells) : InboxCells :=
  { s with
    cells := Function.update s.cells block.lookup.cell
      { s.cells block.lookup.cell with image := .loaded block.image } }

/-- No lookup, download or block is in flight. -/
structure Quiet (s : InboxCells) : Prop where
  lookups : s.lookups = []
  downloads : s.downloads = []
  blocks : s.blocks = []

end InboxCells

/-! ## Steps -/

inductive InboxCellsEvent where
  | loadMessages (it : Iteration String Message) (result : SnapshotResult)
  | cellForRowAt (row : ℕ) (cell : CellID)
  | answer (lookup : Lookup) (document : Option Document) (currentDate : TimeInterval)
  | downloaded (download : Download) (image : Option UIImage)
  | runBlock
  | cacheImage (urlString : String) (image : UIImage)
  | evictImage (urlString : String)

/-- `isURL` says which strings `URL(string:)` accepts. Other screens fill the cache too. -/
inductive InboxCellsStep (F : DateFormatting) (isURL : String → Bool) :
    InboxCells → InboxCellsEvent → InboxCells → Prop where
  | loadMessages {s : InboxCells} {it : Iteration String Message} {result : SnapshotResult} :
      InboxCellsStep F isURL s (.loadMessages it result)
        { s with inbox := s.inbox.loadMessages it result }
  | cellForRowAt {s t : InboxCells} {row : ℕ} {cell : CellID} :
      s.cellForRowAt row cell = some t → InboxCellsStep F isURL s (.cellForRowAt row cell) t
  -- lookups and downloads end in any order, and with any outcome
  | answer {s : InboxCells} {lookup : Lookup} {document : Option Document}
      {currentDate : TimeInterval} :
      lookup ∈ s.lookups →
      InboxCellsStep F isURL s (.answer lookup document currentDate)
        (s.answer F isURL lookup (getUserData document) currentDate)
  | downloaded {s : InboxCells} {download : Download} {image : Option UIImage} :
      download ∈ s.downloads →
      InboxCellsStep F isURL s (.downloaded download image) (s.downloaded download image)
  | runBlock {s : InboxCells} {block : LoadedImage} {blocks : List LoadedImage} :
      s.blocks = block :: blocks →
      InboxCellsStep F isURL s .runBlock (InboxCells.setImage block { s with blocks := blocks })
  | cacheImage {s : InboxCells} {urlString : String} {image : UIImage} :
      InboxCellsStep F isURL s (.cacheImage urlString image)
        { s with imageCache := Function.update s.imageCache urlString (some image) }
  | evictImage {s : InboxCells} {urlString : String} :
      InboxCellsStep F isURL s (.evictImage urlString)
        { s with imageCache := Function.update s.imageCache urlString none }

end ChatApp
end IosProjects
