import PlaybackRules.Failure
import PlaybackRules.Text.Blank
import PlaybackRules.Text.LowerCase
import PlaybackRules.Value

/-!
# Clients

Media servers describe a client by free texts: the model of the device and the name of its
platform.  Both are classified by markers that occur in them, without regard to letter case; the
first check that applies decides.
-/

namespace PlaybackRules

/-- The classes of devices. -/
inductive DeviceClass where
  | tv | mobile | tablet | desktop | browser | unknown
  deriving DecidableEq, Repr, Inhabited

/-- The written form. -/
def DeviceClass.name : DeviceClass → String
  | tv => "tv"
  | mobile => "mobile"
  | tablet => "tablet"
  | desktop => "desktop"
  | browser => "browser"
  | unknown => "unknown"

/-- The known platforms. -/
inductive Platform where
  | ios | android | androidtv | windows | macos | linux | tvos | roku | webos | tizen | unknown
  deriving DecidableEq, Repr, Inhabited

/-- The written form. -/
def Platform.name : Platform → String
  | ios => "ios"
  | android => "android"
  | androidtv => "androidtv"
  | windows => "windows"
  | macos => "macos"
  | linux => "linux"
  | tvos => "tvos"
  | roku => "roku"
  | webos => "webos"
  | tizen => "tizen"
  | unknown => "unknown"

/-- A description in small letters, empty if it is missing. -/
def description (text : Option String) : List Char := Text.lower (text.getD "")

/-- Does a marker occur in a description? -/
def marked (description : List Char) (marker : String) : Bool :=
  Text.isWithin marker.toList description

/-- Platform markers of televisions. -/
def tvMarkers : List String :=
  ["tv", "roku", "webos", "tizen", "firetv", "chromecast", "androidtv"]

/-- Platform markers of desktop systems. -/
def desktopMarkers : List String := ["windows", "macos", "linux"]

/-- Device markers of browsers. -/
def browserMarkers : List String := ["browser", "chrome", "firefox", "safari", "edge"]

/-- The class of a device: televisions first, then phones and tablets, then desktop systems, then
browsers. -/
def DeviceClass.classify (device platform : Option String) : DeviceClass :=
  let device := description device
  let platform := description platform
  let isTablet := marked device "ipad" || marked device "tablet"
  if marked device "tv" || tvMarkers.any (marked platform) then tv
  else if marked device "iphone" || marked device "phone" ||
      ["ios", "android"].any (·.toList == platform) then
    if isTablet then tablet else mobile
  else if isTablet then tablet
  else if desktopMarkers.any (marked platform) then desktop
  else if browserMarkers.any (marked device) then browser
  else unknown

/-- The platform that a description names. -/
def Platform.classify (platform : Option String) : Platform :=
  let text := description platform
  if marked text "ios" || ["iphone", "ipad"].any (·.toList == text) then ios
  else if marked text "android" then
    if marked text "tv" then androidtv else android
  else if marked text "windows" then windows
  else if marked text "macos" || marked text "mac os" || "darwin".toList == text then macos
  else if marked text "linux" then linux
  else if marked text "tvos" || marked text "apple tv" then tvos
  else if marked text "roku" then roku
  else if marked text "webos" then webos
  else if marked text "tizen" then tizen
  else unknown

/-- The name under which a client is shown: its product, else its player's name. -/
def clientName (product playerName : Option String) : String :=
  match product.filter (· != "") with
  | some name => name
  | none => playerName.getD ""

/-! ### Untyped descriptions -/

/-- Reads a description; a value that does not count as true is a missing one. -/
def descriptionOfValue (value : Value) : Except Failure (Option String) :=
  if !value.isTruthy then .ok none
  else
    match value with
    | .str text => .ok (some text)
    | _ => .error .textExpected

/-- The class of a device with untyped descriptions. -/
def DeviceClass.ofValues (device platform : Value) : Except Failure DeviceClass := do
  return classify (← descriptionOfValue device) (← descriptionOfValue platform)

/-- The platform that an untyped description names. -/
def Platform.ofValue (platform : Value) : Except Failure Platform := do
  return classify (← descriptionOfValue platform)

/-- The name of a client with untyped descriptions: the first that counts as true. -/
def clientNameOfValues (product playerName : Value) : Value :=
  if product.isTruthy then product
  else if playerName.isTruthy then playerName
  else .str ""

end PlaybackRules
