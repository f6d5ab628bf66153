import AssetAudit.Text.Casing
import AssetAudit.Text.Search

namespace AssetAudit

/-! The tunable tables of an audit. -/

/-- Values to try for a placeholder when a keyword occurs near it. -/
structure InferenceRule where
  keywords : List String
  values : List String
deriving DecidableEq

/-- Does a keyword occur in the text?  Neither of them is compared by case. -/
def InferenceRule.concerns (rule : InferenceRule) (text : String) : Bool :=
  rule.keywords.any fun keyword =>
    Text.occursIn (Text.lower keyword.toList) (Text.lower text.toList)

def defaultInferenceRules : List InferenceRule := [
  ⟨["icon", "theme", "color"],
    ["Default", "Green", "Orange", "Purple", "Red", "Blue", "Yellow", "Silver", "Space Gray",
      "Dark", "Light"]⟩,
  ⟨["size"], ["Small", "Medium", "Large", "XL", "XXL"]⟩,
  ⟨["device"], ["iPhone", "iPad", "TV", "Watch", "Mac"]⟩,
  ⟨["state"], ["Normal", "Active", "Selected", "Disabled", "Highlighted"]⟩]

structure Config where
  /-- Guesses for placeholders that no binding explains. -/
  inferenceRules : List InferenceRule := defaultInferenceRules
  /-- Words that a lookup may append to the last part of a name with a directory. -/
  roleSuffixes : List String := ["Icon", "Button", "Background", "Image"]
  /-- Directories in which a lookup may expect a bound value. -/
  assetDirectories : List String := ["Icons", "Images", "Themes", "Assets"]
  /-- Marks of higher resolution behind a name. -/
  hdSuffixes : List String := ["-hd", "@2x", "@3x", "-ipad", "-ipadhd"]
  /-- Further text files, which are only searched for names. -/
  fallbackExtensions : List String := ["json", "html", "css", "js", "xml", "txt", "md"]
  /-- How many placeholders of one name are substituted one after the other. -/
  maxExpansionDepth : Nat := 4
  /-- Threads for the work on single files. -/
  workers : Nat := 8
deriving DecidableEq

/-- The values of the first inference rule that concerns one of the texts. -/
def Config.inferValues (config : Config) (texts : List String) : List String :=
  ((config.inferenceRules.find? fun rule => texts.any rule.concerns).map (·.values)).getD []

end AssetAudit
