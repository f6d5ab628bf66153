import AssetAudit.Audit

namespace AssetAudit

/-! What an audit tells about its course. -/

def countText (items : List α) : String := Text.decimal items.length

namespace Survey

def scanLine (tree : SourceTree) : LogLine :=
  ⟨.debug, .sources, "scanned " ++ tree.root ++ ": " ++ countText tree.textPaths ++
    " text files, " ++ countText tree.imagePaths ++ " images, " ++
    countText tree.catalogGroups ++ " catalog groups"⟩

/-- The line about a text file that could not be read. -/
def skipLine (path : String) : TextFailure → LogLine
  | .decoding error =>
      ⟨.warning, .sources,
        "Skipping " ++ path ++ " due to encoding issue: " ++ error.problem.reason⟩
  | .access failure => ⟨.warning, .sources, "Skipping " ++ path ++ ": " ++ failure.reason⟩

def skipLines (survey : Survey) : List LogLine :=
  survey.readings.filterMap fun (path, reading) =>
    match reading with
    | .error failure => some (skipLine path failure)
    | .ok _ => none

/-- The line about an image whose content says nothing. -/
def unreadableLine? (root : String) (reading : AssetReading) : Option LogLine :=
  reading.problem?.map fun problem =>
    let path := joinPaths root reading.asset.path
    ⟨.debug, .inventory, "Cannot read image metadata from " ++ path ++ ": " ++
      problem.message path⟩

/-- The lines about an image set: its unreadable images, or why it was not taken in. -/
def groupLines (root group : String) : GroupReading → List LogLine
  | .variants readings => readings.filterMap (unreadableLine? root)
  | .passedOver problem =>
      let directory := joinPaths root group
      [⟨.debug, .inventory, "Skipping catalog group " ++ directory ++ ": " ++
        problem.message (joinPaths directory Manifest.fileName)⟩]
  | .unlisted failure =>
      [⟨.warning, .inventory, "Skipping catalog group " ++ group ++ ": " ++
        failure.message (joinPaths root group)⟩]

def inventoryLines (survey : Survey) : List LogLine :=
  survey.inventory.standalone.filterMap (unreadableLine? survey.tree.root) ++
    survey.inventory.groups.flatMap fun (group, reading) =>
      groupLines survey.tree.root group reading

def extractionLine (extraction : Extraction) : LogLine :=
  ⟨.debug, .engine, countText extraction.references ++ " references, " ++
    countText extraction.templates ++ " templates, " ++
    Text.decimal extraction.table.size ++ " bound identifiers, " ++
    countText extraction.dynamicLookups ++ " dynamic lookups"⟩

/-- The lines about images that only the search of all texts found. -/
def fallbackLines (assets : List Asset) (usedNames : List String) (sources : List SourceFile) :
    List LogLine :=
  (assets.filter fun asset =>
    asset.isUnmatched usedNames && occursInSources sources asset.name).map fun asset =>
      ⟨.debug, .usage, asset.path ++ " found by substring fallback"⟩

def usageLine (assets : List Asset) (usage : Usage) : LogLine :=
  ⟨.debug, .usage, countText assets ++ " assets: " ++ countText usage.exempt ++ " exempt, " ++
    countText usage.unused ++ " unused"⟩

/-- The line about each rule that ran. -/
def ruleLines (results : List (Rule × List Issue)) : List LogLine :=
  results.map fun (rule, issues) =>
    ⟨.debug, .scoring, "rule " ++ rule.name ++ ": " ++ countText issues ++ " issues"⟩

/-- All lines of an audit that reaches its end. -/
def logLines (survey : Survey) (config : Config) (rules : List Rule) : List LogLine :=
  let extraction := survey.extraction
  let usage := survey.usage extraction config
  let results := (runRules rules survey.assets).toOption.getD []
  scanLine survey.tree :: inventoryLines survey ++ ruleLines results ++ skipLines survey ++
    [extractionLine extraction] ++
    fallbackLines survey.assets usage.usedNames survey.sources ++
    [usageLine survey.assets usage]

end Survey

end AssetAudit
