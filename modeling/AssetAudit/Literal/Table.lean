import AssetAudit.Literal.Rule

namespace AssetAudit.AccessRule

/-! The access patterns of each category of sources. -/

/-- Everything up to the next double quote, at least one character. -/
def untilQuote : Pattern := .someOf (· ≠ '"')

/-- A name in double quotes. -/
def quotedName : Pattern := .sequence ["\"", .capture untilQuote, "\""]

/-- A letter of the table's texts without its case.  The long s and the dotless and the dotted i
fall together with their plain letters. -/
def foldLetter (c : Char) : Char :=
  if 'A' ≤ c && c ≤ 'Z' then Char.ofNat (c.toNat + 32)
  else if c == 'ſ' then 's'
  else if c == 'ı' || c == 'İ' then 'i'
  else c

/-- This text in small letters, in any mixture of cases. -/
def anyCase (piece : String) : Pattern :=
  .sequence (piece.toList.map fun letter => .char fun c => foldLetter c == letter)

/-- A dot and the extension of an image, in any mixture of cases. -/
def imageExtension : Pattern :=
  .sequence [".", .choice (FileName.imageExtensions.map anyCase)]

/-- The name of an image file in double quotes on one line. -/
def quotedFile : Pattern :=
  .sequence ["\"", .capture (.seq (.run fun c => c ≠ '"' && c ≠ '\n') imageExtension), "\""]

/-- A call or message with an opening parenthesis behind its name. -/
def call (name : String) : Pattern := .sequence [.text name, .blanks, "(", .blanks]

def swift : List AccessRule := [
  ⟨"uiimage-named", .sequence [call "UIImage", "named:", .blanks, quotedName], .name⟩,
  ⟨"swiftui-image", .sequence [.boundary, call "Image", quotedName], .name⟩,
  ⟨"uiimage-system-name", .sequence [call "UIImage", "systemName:", .blanks, quotedName], .name⟩,
  ⟨"image-literal", .sequence [call "#imageLiteral", "resourceName:", .blanks, quotedName], .name⟩,
  ⟨"uiimage-contents-of-file",
    .sequence [call "UIImage", "contentsOfFile:", .blanks, quotedName], .name⟩,
  ⟨"bundle-path-for-resource",
    .sequence [call "Bundle.main.path", "forResource:", .blanks, quotedName], .name⟩,
  ⟨"nsbundle-path-for-resource",
    .sequence [call "NSBundle.main.pathForResource", quotedName], .name⟩,
  ⟨"file-literal", quotedFile, .name⟩,
  ⟨"let-constant",
    .sequence ["let", .someBlanks, .word, .blanks, "=", .blanks, quotedName], .name⟩,
  ⟨"static-let-constant",
    .sequence ["static", .someBlanks, "let", .someBlanks, .word, .blanks, "=", .blanks,
      quotedName], .name⟩,
  ⟨"enum-case",
    .sequence ["case", .someBlanks, .word, .blanks, "=", .blanks, quotedName], .name⟩,
  ⟨"record-snapshot",
    .sequence [call "recordSnapshot", .run (· ≠ ')'), "named:", .blanks, quotedName], .name⟩,
  ⟨"verify-view",
    .sequence [call "verifyView", .run (· ≠ ')'), "named:", .blanks, quotedName], .name⟩,
  ⟨"fb-snapshot",
    .sequence [call "FBSnapshotVerifyView", .run (· ≠ ')'), "identifier:", .blanks, quotedName],
    .name⟩,
  ⟨"clk-image-provider",
    .sequence [call "CLKImageProvider", "onePieceImage:", .blanks, call "UIImage", "named:",
      .blanks, quotedName], .name⟩,
  ⟨"cocos-sprite",
    .sequence ["spriteWithFile:", .blanks, .optional "@", quotedName], .name⟩,
  ⟨"image-with-contents-of-file",
    .sequence ["imageWithContentsOfFile:", .blanks, .optional "@", quotedName], .name⟩,
  ⟨"cocos-menu-item",
    .sequence ["itemWithNormalImage:", .blanks, .optional "@", quotedName], .name⟩]

def objectiveC : List AccessRule := [
  ⟨"uiimage-image-named",
    .sequence ["[UIImage", .someBlanks, "imageNamed:", .blanks, "@", quotedName], .name⟩,
  ⟨"image-with-contents-of-file",
    .sequence ["imageWithContentsOfFile:", .run (· ≠ '"'), "@", quotedName], .name⟩,
  ⟨"nsbundle-path-for-resource",
    .sequence ["pathForResource:", .blanks, "@", quotedName], .name⟩,
  ⟨"uiimage-named-macro", .sequence [call "UIImageNamed", "@", quotedName], .name⟩,
  ⟨"file-literal", .seq "@" quotedFile, .name⟩,
  ⟨"define-constant",
    .sequence ["#define", .someBlanks, .word, .someBlanks, "@", quotedName], .name⟩,
  ⟨"nsstring-constant",
    .sequence ["NSString", .blanks, "*", .blanks, .optional (.seq "const" .someBlanks), .word,
      .blanks, "=", .blanks, "@", quotedName], .name⟩,
  ⟨"cocos-sprite", .sequence ["spriteWithFile:", .blanks, "@", quotedName], .name⟩,
  ⟨"string-with-format",
    .sequence ["stringWithFormat:", .blanks, "@\"", .capture (.run (· ≠ '"')), "\"", .blanks, ",",
      .blanks, .capture (.someOf (· ≠ ']')), "]"], .formatCall⟩]

/-- An attribute with this name, in front of which a word begins. -/
def quotedValue (name : String) : Pattern := .sequence [.boundary, .text name, "=", quotedName]

/-- An attribute behind others inside the tag of an element. -/
def elementAttribute (element name : String) : Pattern :=
  .sequence [.text element, .boundary, .someOf (· ≠ '>'), quotedValue name]

def interfaceBuilder : List AccessRule := [
  ⟨"image-attr", quotedValue "image", .name⟩,
  ⟨"image-name-attr", quotedValue "imageName", .name⟩,
  ⟨"image-element", elementAttribute "<image" "name", .name⟩,
  ⟨"image-view", elementAttribute "<imageView" "image", .name⟩,
  ⟨"background-image-attr", quotedValue "backgroundImage", .name⟩,
  ⟨"selected-image-attr", quotedValue "selectedImage", .name⟩,
  ⟨"tab-bar-item", elementAttribute "<tabBarItem" "image", .name⟩,
  ⟨"navigation-title-view", elementAttribute "<navigationItem" "titleView", .name⟩,
  ⟨"button-background", elementAttribute "<button" "backgroundImage", .name⟩]

/-- The text of the string element behind a key. -/
def keyedString (key : String) : Pattern :=
  .sequence ["<key>", .text key, "</key>", .blanks, "<string>", .capture (.someOf (· ≠ '<')),
    "</string>"]

def propertyList : List AccessRule := [
  ⟨"bundle-icon-name", keyedString "CFBundleIconName", .name⟩,
  ⟨"bundle-icon-file", keyedString "CFBundleIconFile", .name⟩,
  ⟨"launch-image-file", keyedString "UILaunchImageFile", .name⟩,
  ⟨"launch-storyboard", keyedString "UILaunchStoryboardName", .name⟩,
  ⟨"image-string",
    .sequence [anyCase "<string>", .capture (.seq (.run (· ≠ '<')) imageExtension),
      anyCase "</string>"], .name⟩]

def strings : List AccessRule := [
  ⟨"strings-entry",
    .sequence ["\"", .capture (.run (· ≠ '"')), "\"", .blanks, "=", .blanks, quotedName, .blanks,
      ";"], .likelyImage⟩]

/-- The access patterns of a category, in the order in which they are tried. -/
def ofCategory : Category → List AccessRule
  | .swift => swift
  | .objectiveC => objectiveC
  | .interfaceBuilder => interfaceBuilder
  | .propertyList => propertyList
  | .strings => strings
  | .fallback => []

end AssetAudit.AccessRule
