import Mathlib.Data.List.Perm.Basic
import IosProjects.Library.Interleave
import IosProjects.InstagramClone.Feed

/-!
# Posting — the screen that posts a picture

`postImage(_:)` turns off all interaction with its view before it looks whether there is a picture.
Only the block of the save turns it on again, so a press without a picture leaves the screen frozen.
The storyboard puts a picture into the view to begin with, and a press posts that one too; but the
block of the save clears the picture, whether the save succeeded or not.

What the screens of all users store is complete, though, and a feed over it keeps its arrays
together.
-/

namespace IosProjects
namespace InstagramClone

open IosProjects.Library

/-! ## `PostViewController` -/

/-- `pngData` is what `pngData()` returns. -/
structure UIImage where
  pngData : Option (List UInt8)
  deriving DecidableEq, Repr

/-- `userPost` with its file. -/
structure UserPost where
  imageName : String
  userId : String
  imageFile : List UInt8
  deriving DecidableEq, Repr

/-- `animating` counts the activity indicators that have not been stopped. -/
structure PostViewController where
  imageView : Option UIImage
  commentTextField : String
  isUserInteractionEnabled : Bool
  animating : ℕ
  deriving DecidableEq, Repr

namespace PostViewController

/-- `photo` is the system image that the storyboard puts into the view. -/
def initial (photo : UIImage) : PostViewController where
  imageView := some photo
  commentTextField := ""
  isUserInteractionEnabled := true
  animating := 0

/-- `imagePickerController(_:didFinishPickingMediaWithInfo:)` with the picture in the dictionary. -/
def didFinishPicking (image : Option UIImage) (vc : PostViewController) : PostViewController :=
  match image with
  | some image => { vc with imageView := some image }
  | none => vc

/-- `postImage(_:)` with the post that it saves, if it comes to that. Assigning no `userId` to the
post traps. -/
def postImage (currentUser : Option String) (vc : PostViewController) :
    Option (PostViewController × Option UserPost) :=
  let vc := { vc with isUserInteractionEnabled := false, animating := vc.animating + 1 }
  match vc.imageView with
  | some image =>
      match currentUser with
      | some userId =>
          let userPost := image.pngData.map fun imageData =>
            { imageName := vc.commentTextField, userId := userId, imageFile := imageData }
          some (vc, userPost)
      | none => none
  | none => some (vc, none)

/-- The block of the save but for its alert. -/
def saved (vc : PostViewController) : PostViewController where
  imageView := none
  commentTextField := ""
  isUserInteractionEnabled := true
  animating := vc.animating - 1

end PostViewController

/-! ## Steps -/

inductive Presented where
  | imagePickerController
  | alert (title message : String)
  deriving DecidableEq, Repr

def savedAlert (succeeded : Bool) : Presented :=
  if succeeded then .alert "Post created" "Your post has successfully posted"
  else .alert "Error posting image" "Please try again"

/-- `presented` covers the view; `requests` are the saves in flight. -/
structure PostScreen where
  vc : PostViewController
  presented : Option Presented
  requests : List UserPost
  deriving DecidableEq, Repr

def PostScreen.initial (photo : UIImage) : PostScreen where
  vc := .initial photo
  presented := none
  requests := []

inductive PostEvent where
  | selectImage
  | didFinishPicking (image : Option UIImage)
  | didCancel
  | type (text : String)
  | postImage (currentUser : Option String)
  | saved (userPost : UserPost) (succeeded : Bool)
  | dismissAlert
  deriving DecidableEq, Repr

/-- The buttons take touches while the view is enabled and nothing covers it; the keyboard types all
the same. -/
inductive PostStep : PostScreen → PostEvent → PostScreen → Prop where
  | selectImage {s : PostScreen} :
      s.vc.isUserInteractionEnabled = true → s.presented = none →
      PostStep s .selectImage { s with presented := some .imagePickerController }
  | didFinishPicking {s : PostScreen} {image : Option UIImage} :
      s.presented = some .imagePickerController →
      PostStep s (.didFinishPicking image)
        { s with vc := s.vc.didFinishPicking image, presented := none }
  | didCancel {s : PostScreen} :
      s.presented = some .imagePickerController →
      PostStep s .didCancel { s with presented := none }
  | type {s : PostScreen} {text : String} :
      PostStep s (.type text) { s with vc := { s.vc with commentTextField := text } }
  | postImage {s : PostScreen} {currentUser : Option String} {vc : PostViewController}
      {userPost : Option UserPost} :
      s.vc.isUserInteractionEnabled = true → s.presented = none →
      s.vc.postImage currentUser = some (vc, userPost) →
      PostStep s (.postImage currentUser)
        { s with vc := vc, requests := s.requests ++ userPost.toList }
  -- nothing is presented over what is presented already
  | saved {s : PostScreen} {userPost : UserPost} {succeeded : Bool} :
      userPost ∈ s.requests →
      PostStep s (.saved userPost succeeded)
        { vc := s.vc.saved
          presented := some (s.presented.getD (savedAlert succeeded))
          requests := s.requests.erase userPost }
  | dismissAlert {s : PostScreen} {title message : String} :
      s.presented = some (.alert title message) →
      PostStep s .dismissAlert { s with presented := none }

/-! ## Saves in flight -/

/-- The view answers touches, or one save is in flight, or it is frozen. -/
inductive PostScreen.Phase (s : PostScreen) : Prop where
  | ready : s.vc.isUserInteractionEnabled = true → s.requests = [] → s.vc.animating = 0 → s.Phase
  | saving (userPost : UserPost) :
      s.vc.isUserInteractionEnabled = false → s.requests = [userPost] → s.presented = none →
      s.vc.animating = 1 → s.Phase
  | frozen :
      s.vc.isUserInteractionEnabled = false → s.requests = [] → s.presented = none →
      s.vc.animating = 1 → s.Phase

/-- No touch is answered, and no save will change that. -/
def PostScreen.Frozen (s : PostScreen) : Prop :=
  s.vc.isUserInteractionEnabled = false ∧ s.requests = []

instance (s : PostScreen) : Decidable s.Frozen :=
  inferInstanceAs (Decidable (_ ∧ _))

/-- The picture in the view can be posted. -/
def PostViewController.HasPicture (vc : PostViewController) : Prop :=
  ∃ image, vc.imageView = some image ∧ image.pngData.isSome

section Phases

variable {s t : PostScreen} {e : PostEvent} {vc vc' : PostViewController}
    {currentUser : Option String}
  {userPost : Option UserPost}

/-- All that a press does; it saves a post exactly if there is a picture. -/
theorem PostViewController.postImage_spec (h : vc.postImage currentUser = some (vc', userPost)) :
    vc' = { vc with isUserInteractionEnabled := false, animating := vc.animating + 1 } ∧
      (userPost.isSome ↔ vc.HasPicture) := by
  unfold postImage at h
  cases himage : vc.imageView with
  | none =>
      simp only [himage, Option.some.injEq, Prod.mk.injEq] at h
      obtain ⟨rfl, rfl⟩ := h
      simp [HasPicture, himage]
  | some image =>
      cases currentUser with
      | none => simp [himage] at h
      | some userId =>
          simp only [himage, Option.some.injEq, Prod.mk.injEq] at h
          obtain ⟨rfl, rfl⟩ := h
          simp [HasPicture, himage]

theorem PostScreen.Phase.step (h : s.Phase) (hstep : PostStep s e t) : t.Phase := by
  cases hstep with
  | selectImage henabled _ =>
      cases h with
      | ready _ hrequests hanimating => exact .ready henabled hrequests hanimating
      | saving _ hdisabled => simp [henabled] at hdisabled
      | frozen hdisabled => simp [henabled] at hdisabled
  | @didFinishPicking image hpicker =>
      cases h with
      | ready henabled hrequests hanimating =>
          cases image <;> exact .ready henabled hrequests hanimating
      | saving _ _ _ hnone => simp [hpicker] at hnone
      | frozen _ _ hnone => simp [hpicker] at hnone
  | didCancel hpicker =>
      cases h with
      | ready henabled hrequests hanimating => exact .ready henabled hrequests hanimating
      | saving _ _ _ hnone => simp [hpicker] at hnone
      | frozen _ _ hnone => simp [hpicker] at hnone
  | type =>
      cases h with
      | ready henabled hrequests hanimating => exact .ready henabled hrequests hanimating
      | saving post hdisabled hrequests hnone hanimating =>
          exact .saving post hdisabled hrequests hnone hanimating
      | frozen hdisabled hrequests hnone hanimating =>
          exact .frozen hdisabled hrequests hnone hanimating
  | @postImage currentUser vc userPost henabled hnone hpost =>
      obtain ⟨rfl, _⟩ := PostViewController.postImage_spec hpost
      cases h with
      | ready _ hrequests hanimating =>
          cases userPost with
          | none => exact .frozen rfl (by simp [hrequests]) hnone (by simp [hanimating])
          | some post => exact .saving post rfl (by simp [hrequests]) hnone (by simp [hanimating])
      | saving _ hdisabled => simp [henabled] at hdisabled
      | frozen hdisabled => simp [henabled] at hdisabled
  | @saved userPost succeeded hmem =>
      cases h with
      | ready _ hrequests => simp [hrequests] at hmem
      | saving post _ hrequests _ hanimating =>
          obtain rfl : userPost = post := by simpa [hrequests] using hmem
          exact .ready rfl (by simp [hrequests]) (by simp [PostViewController.saved, hanimating])
      | frozen _ hrequests => simp [hrequests] at hmem
  | dismissAlert halert =>
      cases h with
      | ready henabled hrequests hanimating => exact .ready henabled hrequests hanimating
      | saving _ _ _ hnone => simp [halert] at hnone
      | frozen _ _ hnone => simp [halert] at hnone

theorem phase_of_run {photo : UIImage} {es : List PostEvent}
    (hrun : Run PostStep (.initial photo) es t) : t.Phase :=
  hrun.invariant (fun _ _ _ h hstep => h.step hstep) (.ready rfl rfl rfl)

end Phases

/-! ## What freezes the screen -/

/-- The picture stays one that can be posted. -/
def PostEvent.KeepsPicture : PostEvent → Prop
  | didFinishPicking (some image) => image.pngData.isSome
  | saved _ _ => False
  | _ => True

/-- A picture is picked that can be posted. -/
def PostEvent.PicksPicture (e : PostEvent) : Prop :=
  ∃ image : UIImage, e = .didFinishPicking (some image) ∧ image.pngData.isSome

/-- The view still has the picture of the storyboard, or one that has been picked since the last
save answered, and it can be posted. -/
def PictureThere (photo : UIImage) (es : List PostEvent) : Prop :=
  (photo.pngData.isSome ∧ ∀ e ∈ es, e.KeepsPicture) ∨
    HeldSince PostEvent.KeepsPicture (fun _ e => e.PicksPicture) es

section Frozen

variable {photo : UIImage} {s t : PostScreen} {e : PostEvent} {es : List PostEvent}

theorem PictureThere.nil_iff : PictureThere photo [] ↔ photo.pngData.isSome := by
  simp [PictureThere, HeldSince.not_nil]

theorem PictureThere.snoc_iff :
    PictureThere photo (es ++ [e]) ↔ e.PicksPicture ∨ PictureThere photo es ∧ e.KeepsPicture := by
  rw [PictureThere, PictureThere, HeldSince.snoc_iff, List.forall_mem_append,
    List.forall_mem_singleton]
  tauto

/-- A step leaves a picture that can be posted if it picks one, or if there was one and it keeps
it. -/
theorem hasPicture_step_iff (hstep : PostStep s e t) :
    t.vc.HasPicture ↔ e.PicksPicture ∨ s.vc.HasPicture ∧ e.KeepsPicture := by
  cases hstep with
  | @didFinishPicking image _ =>
      cases image with
      | none =>
          simp [PostEvent.PicksPicture, PostEvent.KeepsPicture, PostViewController.didFinishPicking]
      | some image =>
          simp only [PostViewController.HasPicture, PostViewController.didFinishPicking,
            PostEvent.PicksPicture, PostEvent.KeepsPicture, PostEvent.didFinishPicking.injEq,
            Option.some.injEq, exists_eq_left']
          exact ⟨Or.inl, fun h => h.elim id And.right⟩
  | postImage _ _ hpost =>
      obtain ⟨rfl, _⟩ := PostViewController.postImage_spec hpost
      simp [PostEvent.PicksPicture, PostEvent.KeepsPicture, PostViewController.HasPicture]
  | saved _ =>
      simp [PostEvent.PicksPicture, PostEvent.KeepsPicture, PostViewController.HasPicture,
        PostViewController.saved]
  | type =>
      simp [PostEvent.PicksPicture, PostEvent.KeepsPicture, PostViewController.HasPicture]
  | selectImage _ _ => simp [PostEvent.PicksPicture, PostEvent.KeepsPicture]
  | didCancel _ => simp [PostEvent.PicksPicture, PostEvent.KeepsPicture]
  | dismissAlert _ => simp [PostEvent.PicksPicture, PostEvent.KeepsPicture]

theorem hasPicture_iff (hrun : Run PostStep (.initial photo) es t) :
    t.vc.HasPicture ↔ PictureThere photo es := by
  refine hrun.invariant_history (P := fun es t => t.vc.HasPicture ↔ PictureThere photo es) ?_ ?_
  · rw [PictureThere.nil_iff]
    simp [PostViewController.HasPicture, PostScreen.initial, PostViewController.initial]
  · intro es s e t _ h hstep
    rw [hasPicture_step_iff hstep, PictureThere.snoc_iff, h]

/-- A frozen screen stays frozen. -/
theorem PostScreen.Frozen.step (h : s.Frozen) (hphase : s.Phase) (hstep : PostStep s e t) :
    t.Frozen := by
  obtain ⟨hdisabled, hrequests⟩ := h
  have hnone : s.presented = none := by
    cases hphase with
    | ready henabled => simp [hdisabled] at henabled
    | saving _ _ _ hnone => exact hnone
    | frozen _ _ hnone => exact hnone
  cases hstep with
  | selectImage henabled _ => simp [hdisabled] at henabled
  | didFinishPicking hpicker => simp [hnone] at hpicker
  | didCancel hpicker => simp [hnone] at hpicker
  | type => exact ⟨hdisabled, hrequests⟩
  | postImage henabled _ _ => simp [hdisabled] at henabled
  | saved hmem => simp [hrequests] at hmem
  | dismissAlert halert => simp [hnone] at halert

/-- The only step that freezes a screen is a press without a picture. -/
theorem frozen_step_iff (hphase : s.Phase) (hs : ¬ s.Frozen) (hstep : PostStep s e t) :
    t.Frozen ↔ ∃ currentUser, e = .postImage currentUser ∧ ¬ s.vc.HasPicture := by
  cases hstep with
  | @postImage currentUser vc userPost henabled _ hpost =>
      obtain ⟨rfl, hsome⟩ := PostViewController.postImage_spec hpost
      have hrequests : s.requests = [] := by
        cases hphase with
        | ready _ hrequests => exact hrequests
        | saving _ hdisabled => simp [henabled] at hdisabled
        | frozen _ hrequests => exact hrequests
      rw [← hsome]
      cases userPost <;> simp [PostScreen.Frozen, hrequests]
  | selectImage henabled _ => simp [PostScreen.Frozen, henabled]
  | @didFinishPicking image _ => cases image <;> exact iff_of_false hs (by simp)
  | didCancel _ => exact iff_of_false hs (by simp)
  | type => exact iff_of_false hs (by simp)
  | saved _ => simp [PostScreen.Frozen, PostViewController.saved]
  | dismissAlert _ => exact iff_of_false hs (by simp)

/-- After any run the screen is frozen for good if and only if Post has been pressed with no picture
there that can be posted; otherwise one save is in flight, or it takes touches. -/
theorem frozen_iff (hrun : Run PostStep (.initial photo) es t) :
    (t.Frozen ↔ ∃ before after currentUser,
        es = before ++ .postImage currentUser :: after ∧ ¬ PictureThere photo before) ∧
      (¬ t.Frozen → t.vc.isUserInteractionEnabled = true ∨
        ∃ userPost, t.requests = [userPost]) := by
  constructor
  · induction hrun with
    | nil => simp [PostScreen.Frozen, PostScreen.initial, PostViewController.initial]
    | @snoc s t es e hrun hstep ih =>
        have hphase := phase_of_run hrun
        constructor
        · intro ht
          by_cases hs : s.Frozen
          · obtain ⟨before, after, currentUser, rfl, hpicked⟩ := ih.1 hs
            exact ⟨before, after ++ [e], currentUser, by simp, hpicked⟩
          · obtain ⟨currentUser, rfl, hpicture⟩ := (frozen_step_iff hphase hs hstep).1 ht
            exact ⟨es, [], currentUser, rfl, fun hpicked =>
              hpicture ((hasPicture_iff hrun).2 hpicked)⟩
        · rintro ⟨before, after, currentUser, hes, hpicked⟩
          rcases snoc_eq_split hes with ⟨rfl, rfl, rfl⟩ | ⟨rest, rfl, rfl⟩
          · by_cases hs : s.Frozen
            · exact hs.step hphase hstep
            · refine (frozen_step_iff hphase hs hstep).2 ⟨currentUser, rfl, fun hpicture => ?_⟩
              exact hpicked ((hasPicture_iff hrun).1 hpicture)
          · exact (ih.2 ⟨before, rest, currentUser, rfl, hpicked⟩).step hphase hstep
  · intro ht
    cases phase_of_run hrun with
    | ready henabled => exact Or.inl henabled
    | saving userPost _ hrequests => exact Or.inr ⟨userPost, hrequests⟩
    | frozen hdisabled hrequests => exact absurd ⟨hdisabled, hrequests⟩ ht

end Frozen

/-- The system image, and a picture of the beach. -/
def photo : UIImage where
  pngData := some [137, 80]

def beach : UIImage where
  pngData := some [137, 80, 78, 71]

def beachPost : UserPost where
  imageName := "at the beach"
  userId := "bob"
  imageFile := [137, 80, 78, 71]

def beachEvents (succeeded : Bool) : List PostEvent :=
  [.selectImage, .didFinishPicking (some beach), .type "at the beach", .postImage (some "bob"),
    .saved beachPost succeeded, .dismissAlert]

/-- The view has been cleared. -/
def clearedScreen : PostScreen where
  vc :=
    { imageView := none, commentTextField := "", isUserInteractionEnabled := true, animating := 0 }
  presented := none
  requests := []

theorem beach_run (succeeded : Bool) :
    Run PostStep (.initial photo) (beachEvents succeeded) clearedScreen := by
  have hpicked := (Run.single (PostStep.selectImage (s := .initial photo) rfl rfl)).snoc
    (@PostStep.didFinishPicking _ (some beach) rfl)
  have hpressed := (hpicked.snoc (@PostStep.type _ "at the beach")).snoc
    (@PostStep.postImage _ (some "bob") _ _ rfl rfl rfl)
  have hsaved := hpressed.snoc (@PostStep.saved _ beachPost succeeded (by decide))
  cases succeeded with
  | true => exact hsaved.snoc (.dismissAlert rfl)
  | false => exact hsaved.snoc (.dismissAlert rfl)

/-- A press on a new screen posts the picture of the storyboard. After a save that failed an alert
asks to try again, and trying again freezes the screen. -/
theorem tryAgain_freezes :
    (∃ t, Run PostStep (.initial photo) [.postImage (some "bob")] t ∧ ¬ t.Frozen) ∧
      ∃ t, Run PostStep (.initial photo) (beachEvents false ++ [.postImage (some "bob")]) t ∧
        t.Frozen := by
  have hfresh : Run PostStep (.initial photo) [.postImage (some "bob")] _ :=
    Run.single (@PostStep.postImage (.initial photo) (some "bob") _ _ rfl rfl rfl)
  have hagain := (beach_run false).snoc
    (@PostStep.postImage clearedScreen (some "bob") _ _ rfl rfl rfl)
  refine ⟨⟨_, hfresh, fun hfrozen => ?_⟩, ⟨_, hagain, (frozen_iff hagain).1.2 ?_⟩⟩
  · obtain ⟨before, after, currentUser, hes, hpicture⟩ := (frozen_iff hfresh).1.1 hfrozen
    obtain rfl : before = [] := by
      cases before with
      | nil => rfl
      | cons e before => simp at hes
    exact hpicture (PictureThere.nil_iff.2 rfl)
  · refine ⟨beachEvents false, [], some "bob", rfl, fun hpicture => ?_⟩
    have hpicture := (hasPicture_iff (beach_run false)).2 hpicture
    simp [PostViewController.HasPicture, clearedScreen] at hpicture

end InstagramClone
end IosProjects
