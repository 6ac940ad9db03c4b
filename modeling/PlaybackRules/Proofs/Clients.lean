import Mathlib.Data.List.Infix
import PlaybackRules.Media.Client

/-!
# Clients

Devices and platforms are classified apart, by markers of their own.  A marker occurs wherever a
longer one does in which it is held (`marked_of_isWithin`), so whatever names the platform of a
television carries a marker of televisions, and its device is one
(`DeviceClass.classify_of_television`).  Phones, tablets and desktop systems are another matter: a
device is told by fewer spellings of its platform than the platform itself, and
`DeviceClass.classify_agrees_iff` says for which of them the two classes agree.
-/

namespace PlaybackRules

/-! ## Markers -/

theorem Text.isWithin_iff {needle : List Char} : ∀ {cs : List Char},
    isWithin needle cs = true ↔ needle <:+: cs
  | [] => by simp [isWithin]
  | c :: cs => by
      rw [isWithin, Bool.or_eq_true, List.isPrefixOf_iff_prefix, isWithin_iff,
        List.infix_cons_iff]

/-- A marker that is held in another one occurs wherever that one does. -/
theorem marked_of_isWithin {text : List Char} {marker held : String}
    (hheld : Text.isWithin held.toList marker.toList = true) (h : marked text marker = true) :
    marked text held = true := by
  unfold marked at h ⊢
  rw [Text.isWithin_iff] at hheld h ⊢
  exact hheld.trans h

/-- Does a description carry one of some markers? -/
def Carries (markers : List String) (text : Option String) : Prop :=
  ∃ marker ∈ markers, marked (description text) marker = true

instance (markers : List String) (text : Option String) : Decidable (Carries markers text) :=
  inferInstanceAs (Decidable (∃ marker ∈ markers, marked (description text) marker = true))

/-! ## Platforms -/

namespace Platform

/-- The platforms of televisions. -/
def televisions : List Platform := [androidtv, tvos, roku, webos, tizen]

/-- The platforms of phones and tablets. -/
def handhelds : List Platform := [ios, android]

/-- The platforms of desktop systems. -/
def desktops : List Platform := [windows, macos, linux]

/-- What is found in a description that names a platform. -/
def IsNamedBy (text : List Char) : Platform → Prop
  | ios => marked text "ios" = true ∨ "iphone".toList = text ∨ "ipad".toList = text
  | android => marked text "android" = true ∧ ¬marked text "tv" = true
  | androidtv => marked text "android" = true ∧ marked text "tv" = true
  | windows => marked text "windows" = true
  | macos => ¬marked text "windows" = true ∧
      (marked text "macos" = true ∨ marked text "mac os" = true ∨ "darwin".toList = text)
  | linux => marked text "linux" = true
  | tvos => marked text "tvos" = true ∨ marked text "apple tv" = true
  | roku => marked text "roku" = true
  | webos => marked text "webos" = true
  | tizen => marked text "tizen" = true
  | unknown => True

theorem isNamedBy_classify (text : Option String) :
    (classify text).IsNamedBy (description text) := by
  unfold classify
  simp only [Bool.or_eq_true, List.any_cons, List.any_nil, Bool.or_false, beq_iff_eq, or_assoc]
  -- one case for each branch of the cascade, in its order
  split_ifs with hios handroid htv hwindows hmacos hlinux htvos hroku hwebos htizen
  · exact hios
  · exact ⟨handroid, htv⟩
  · exact ⟨handroid, htv⟩
  · exact hwindows
  · exact ⟨hwindows, hmacos⟩
  · exact hlinux
  · exact htvos
  · exact hroku
  · exact hwebos
  · exact htizen
  · trivial

/-- The name of a television's platform carries a marker of televisions. -/
theorem carries_of_television {text : Option String} (h : classify text ∈ televisions) :
    Carries tvMarkers text := by
  have hnamed := isNamedBy_classify text
  simp only [televisions, List.mem_cons, List.not_mem_nil, or_false] at h
  rcases h with h | h | h | h | h <;> rw [h] at hnamed
  case inl => exact ⟨"tv", by decide, hnamed.2⟩
  case inr.inl =>
      -- "tv" is held in "tvos" and in "apple tv"
      rcases hnamed with htvos | happle
      · exact ⟨"tv", by decide, marked_of_isWithin (by decide) htvos⟩
      · exact ⟨"tv", by decide, marked_of_isWithin (by decide) happle⟩
  case inr.inr.inl => exact ⟨"roku", by decide, hnamed⟩
  case inr.inr.inr.inl => exact ⟨"webos", by decide, hnamed⟩
  case inr.inr.inr.inr => exact ⟨"tizen", by decide, hnamed⟩

/-- A name of a desktop system carries a marker of them exactly if it holds the written form of the
platform, as only macOS has other spellings, or that of Linux. -/
theorem carries_iff_of_desktop {text : Option String} (h : classify text ∈ desktops) :
    Carries desktopMarkers text ↔ Carries [(classify text).name, linux.name] text := by
  have hnamed := isNamedBy_classify text
  simp only [desktops, List.mem_cons, List.not_mem_nil, or_false] at h
  rcases h with h | h | h <;> rw [h] at hnamed ⊢
  · exact ⟨fun _ => ⟨"windows", by decide, hnamed⟩, fun _ => ⟨"windows", by decide, hnamed⟩⟩
  · simp [Carries, desktopMarkers, name, hnamed.1]
  · exact ⟨fun _ => ⟨"linux", by decide, hnamed⟩, fun _ => ⟨"linux", by decide, hnamed⟩⟩

theorem classify_of_description_eq {text : Option String} {p : Platform} (hp : p ∈ handhelds)
    (h : description text = p.name.toList) : classify text = p := by
  unfold classify
  rw [h]
  clear h
  revert p
  decide

end Platform

/-! ## Devices -/

namespace DeviceClass

variable {device platform : Option String}

/-- Device markers of phones and tablets. -/
def handheldMarkers : List String := ["iphone", "phone", "ipad", "tablet"]

/-- The platforms by whose bare name a device counts as a phone. -/
def handheldNames : List (List Char) := ["ios".toList, "android".toList]

/-- The classes of what is held in the hand and of televisions. -/
def handheldOrTv : List DeviceClass := [mobile, tablet, tv]

/-- Is a device told to be a television, by its own name or that of its platform? -/
def ShowsTv (device platform : Option String) : Prop :=
  Carries ["tv"] device ∨ Carries tvMarkers platform

/-- Is a device told to be a phone or a tablet? -/
def ShowsHandheld (device platform : Option String) : Prop :=
  Carries handheldMarkers device ∨ description platform ∈ handheldNames

theorem showsTv_iff : ShowsTv device platform ↔
    (marked (description device) "tv" || tvMarkers.any (marked (description platform))) = true := by
  simp [ShowsTv, Carries]

theorem showsHandheld_iff : ShowsHandheld device platform ↔
    (marked (description device) "iphone" || marked (description device) "phone" ||
      ["ios", "android"].any (·.toList == description platform)) = true ∨
    (marked (description device) "ipad" || marked (description device) "tablet") = true := by
  simp only [ShowsHandheld, Carries, handheldMarkers, handheldNames, List.mem_cons,
    List.not_mem_nil, or_false, exists_eq_or_imp, exists_eq_left, Bool.or_eq_true, List.any_cons,
    List.any_nil, Bool.false_eq_true, beq_iff_eq, eq_comm (a := description platform)]
  exact (or_right_comm.trans (or_congr_left or_assoc)).symm

theorem classify_of_showsTv (h : ShowsTv device platform) : classify device platform = tv := by
  unfold classify
  exact if_pos (showsTv_iff.mp h)

theorem classify_of_showsHandheld (htv : ¬ShowsTv device platform)
    (h : ShowsHandheld device platform) : classify device platform ∈ [mobile, tablet] := by
  unfold classify
  rw [showsTv_iff] at htv
  rw [showsHandheld_iff] at h
  rw [if_neg htv]
  split_ifs with hphone htablet htablet
  · simp
  · simp
  · simp
  -- the later branches are those of a device without any of the marks
  all_goals exact absurd h (not_or.mpr ⟨hphone, htablet⟩)

/-- What is told to be neither a television nor a phone or a tablet goes by the markers of desktop
systems and then those of browsers. -/
theorem classify_of_not_shows (htv : ¬ShowsTv device platform)
    (hhand : ¬ShowsHandheld device platform) :
    classify device platform = if Carries desktopMarkers platform then desktop
      else if Carries browserMarkers device then browser else unknown := by
  unfold classify
  rw [showsTv_iff] at htv
  rw [showsHandheld_iff, not_or] at hhand
  rw [if_neg htv, if_neg hhand.1, if_neg hhand.2]
  simp only [List.any_eq_true]
  rfl

/-- Whatever names the platform of a television makes its device one. -/
theorem classify_of_television (device : Option String) {platform : Option String}
    (h : Platform.classify platform ∈ Platform.televisions) : classify device platform = tv :=
  classify_of_showsTv (.inr (Platform.carries_of_television h))

theorem classify_of_television_appleTv :
    Platform.classify (some "Apple TV 4K") ∈ Platform.televisions ∧
      classify (some "iPhone") (some "Apple TV 4K") = tv :=
  have h : Platform.classify (some "Apple TV 4K") ∈ Platform.televisions := by decide +kernel
  ⟨h, classify_of_television (some "iPhone") h⟩

/-- Only what is told to be a television, a phone or a tablet is classified as one. -/
theorem classify_mem_handheldOrTv_iff :
    classify device platform ∈ handheldOrTv ↔
      ShowsTv device platform ∨ ShowsHandheld device platform := by
  by_cases htv : ShowsTv device platform
  · simp [classify_of_showsTv htv, htv, handheldOrTv]
  by_cases hhand : ShowsHandheld device platform
  · have hclass := classify_of_showsHandheld htv hhand
    exact ⟨fun _ => .inr hhand, fun _ => List.mem_append_left [tv] hclass⟩
  · rw [classify_of_not_shows htv hhand]
    split_ifs <;> simp [handheldOrTv, htv, hhand]

/-- The bare names that make a phone are the written forms of the platforms of phones. -/
theorem mem_handheldNames_iff (h : Platform.classify platform ∈ Platform.handhelds) :
    description platform ∈ handheldNames ↔
      description platform = (Platform.classify platform).name.toList := by
  simp only [handheldNames, List.mem_cons, List.not_mem_nil, or_false]
  constructor
  · rintro (hios | handroid)
    · rw [hios, Platform.classify_of_description_eq (p := .ios) (by decide) hios]
      rfl
    · rw [handroid, Platform.classify_of_description_eq (p := .android) (by decide) handroid]
      rfl
  · intro hname
    rw [hname]
    revert h
    generalize Platform.classify platform = p
    revert p
    decide

/-- A device agrees with a platform of phones if it is told to be a phone, a tablet or a television
by other marks, and else only if the description of the platform is its written form and nothing
more.  With a platform of desktop systems it agrees, other marks apart, if the description holds the
written form or that of Linux. -/
theorem classify_agrees_iff (device platform : Option String) :
    (Platform.classify platform ∈ Platform.handhelds →
      (classify device platform ∈ handheldOrTv ↔
        ShowsTv device platform ∨ Carries handheldMarkers device ∨
          description platform = (Platform.classify platform).name.toList)) ∧
    (Platform.classify platform ∈ Platform.desktops →
      ¬ShowsTv device platform → ¬ShowsHandheld device platform →
      (classify device platform = desktop ↔
        Carries [(Platform.classify platform).name, Platform.linux.name] platform)) := by
  constructor
  · intro hplatform
    rw [classify_mem_handheldOrTv_iff, ShowsHandheld, mem_handheldNames_iff hplatform]
  · intro hplatform htv hhand
    rw [classify_of_not_shows htv hhand, ← Platform.carries_iff_of_desktop hplatform]
    split_ifs with hdesktop <;> simp [hdesktop]

theorem classify_agrees_iff_pixel :
    (Platform.classify (some "Android") ∈ Platform.handhelds ∧
      classify (some "Pixel 8") (some "Android") ∈ handheldOrTv) ∧
    Platform.classify (some "Windows 11") ∈ Platform.desktops ∧
      classify (some "Chrome") (some "Windows 11") = desktop := by
  have hphone : Platform.classify (some "Android") ∈ Platform.handhelds := by decide +kernel
  have hname : description (some "Android") =
      (Platform.classify (some "Android")).name.toList := by decide +kernel
  have hsystem : Platform.classify (some "Windows 11") ∈ Platform.desktops := by decide +kernel
  have hother : ¬ShowsTv (some "Chrome") (some "Windows 11") ∧
      ¬ShowsHandheld (some "Chrome") (some "Windows 11") := by
    unfold ShowsTv ShowsHandheld
    decide +kernel
  have hcarries : Carries [(Platform.classify (some "Windows 11")).name, Platform.linux.name]
      (some "Windows 11") := by decide +kernel
  obtain ⟨hagrees, -⟩ := classify_agrees_iff (some "Pixel 8") (some "Android")
  obtain ⟨-, hdesktop⟩ := classify_agrees_iff (some "Chrome") (some "Windows 11")
  exact ⟨⟨hphone, (hagrees hphone).mpr (.inr (.inr hname))⟩, hsystem,
    (hdesktop hsystem hother.1 hother.2).mpr hcarries⟩

/-- The version of a phone's system and the space in a desktop system's name hide them. -/
theorem classify_disagrees :
    (Platform.classify (some "iOS 17.2") ∈ Platform.handhelds ∧
      classify none (some "iOS 17.2") = unknown) ∧
    Platform.classify (some "Mac OS X") ∈ Platform.desktops ∧
      ¬Carries (tvMarkers ++ handheldMarkers) (some "MacBook") ∧
      ¬Carries (tvMarkers ++ handheldMarkers) (some "Mac OS X") ∧
      classify (some "MacBook") (some "Mac OS X") = unknown := by
  decide +kernel

end DeviceClass

end PlaybackRules
