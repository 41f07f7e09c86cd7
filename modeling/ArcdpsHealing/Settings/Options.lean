import ArcdpsHealing.Settings.Fields

namespace ArcdpsHealing.Settings

open Lib JsonType

namespace HealWindowOptions

variable (w : HealWindowOptions)

def members (d : HealWindowOptions) : List Json.Member := [
  boolean.setJsonVal (utf8 "Shown") w.shown d.shown,
  int32.setJsonVal (utf8 "DataSourceChoice") w.dataSourceChoice d.dataSourceChoice,
  int32.setJsonVal (utf8 "SortOrderChoice") w.sortOrderChoice d.sortOrderChoice,
  int32.setJsonVal (utf8 "CombatEndConditionChoice")
    w.combatEndConditionChoice d.combatEndConditionChoice,
  boolean.setJsonVal (utf8 "ExcludeGroup") w.excludeGroup d.excludeGroup,
  boolean.setJsonVal (utf8 "ExcludeOffGroup") w.excludeOffGroup d.excludeOffGroup,
  boolean.setJsonVal (utf8 "ExcludeOffSquad") w.excludeOffSquad d.excludeOffSquad,
  boolean.setJsonVal (utf8 "ExcludeMinions") w.excludeMinions d.excludeMinions,
  boolean.setJsonVal (utf8 "ExcludeUnmapped") w.excludeUnmapped d.excludeUnmapped,
  boolean.setJsonVal (utf8 "ExcludeHealing") w.excludeHealing d.excludeHealing,
  boolean.setJsonVal (utf8 "ExcludeBarrierGeneration")
    w.excludeBarrierGeneration d.excludeBarrierGeneration,
  boolean.setJsonVal (utf8 "ExcludeAgainstDowned") w.excludeAgainstDowned d.excludeAgainstDowned,
  boolean.setJsonVal (utf8 "ExcludeAgainstNonDowned")
    w.excludeAgainstNonDowned d.excludeAgainstNonDowned,
  cstring.setJsonVal (utf8 "IncludedSkills") w.includedSkills d.includedSkills,
  boolean.setJsonVal (utf8 "ShowProgressBars") w.showProgressBars d.showProgressBars,
  boolean.setJsonVal (utf8 "UseSubgroupForBarColour")
    w.useSubgroupForBarColour d.useSubgroupForBarColour,
  boolean.setJsonVal (utf8 "UseProfessionForBarColour")
    w.useProfessionForBarColour d.useProfessionForBarColour,
  boolean.setJsonVal (utf8 "IndexNumbers") w.indexNumbers d.indexNumbers,
  boolean.setJsonVal (utf8 "ProfessionText") w.professionText d.professionText,
  boolean.setJsonVal (utf8 "ProfessionIcons") w.professionIcons d.professionIcons,
  boolean.setJsonVal (utf8 "ReplacePlayerWithAccountName")
    w.replacePlayerWithAccountName d.replacePlayerWithAccountName,
  boolean.setJsonVal (utf8 "UseProfessionForNameColour")
    w.useProfessionForNameColour d.useProfessionForNameColour,
  boolean.setJsonVal (utf8 "UseSubgroupForNameColour")
    w.useSubgroupForNameColour d.useSubgroupForNameColour,
  boolean.setJsonVal (utf8 "SelfOnTop") w.selfOnTop d.selfOnTop,
  boolean.setJsonVal (utf8 "HideSelfFromList") w.hideSelfFromList d.hideSelfFromList,
  boolean.setJsonVal (utf8 "SelfOnly") w.selfOnly d.selfOnly,
  boolean.setJsonVal (utf8 "AnonymousMode") w.anonymousMode d.anonymousMode,
  cstring.setJsonVal (utf8 "Name") w.name d.name,
  cstring.setJsonVal (utf8 "TitleFormat") w.titleFormat d.titleFormat,
  cstring.setJsonVal (utf8 "EntryFormat") w.entryFormat d.entryFormat,
  cstring.setJsonVal (utf8 "DetailsEntryFormat") w.detailsEntryFormat d.detailsEntryFormat,
  int32.setJsonVal (utf8 "WindowFlags") w.windowFlags d.windowFlags,
  int32.setJsonVal (utf8 "Hotkey") w.hotkey d.hotkey,
  int32.setJsonVal (utf8 "PositionRule") w.positionRule d.positionRule,
  int32.setJsonVal (utf8 "RelativeScreenCorner") w.relativeScreenCorner d.relativeScreenCorner,
  int32.setJsonVal (utf8 "RelativeSelfCorner") w.relativeSelfCorner d.relativeSelfCorner,
  int32.setJsonVal (utf8 "RelativeAnchorWindowCorner")
    w.relativeAnchorWindowCorner d.relativeAnchorWindowCorner,
  int64.setJsonVal (utf8 "RelativeX") w.relativeX d.relativeX,
  int64.setJsonVal (utf8 "RelativeY") w.relativeY d.relativeY,
  uint32.setJsonVal (utf8 "AnchorWindowId") w.anchorWindowId d.anchorWindowId,
  boolean.setJsonVal (utf8 "AutoResize") w.autoResize d.autoResize,
  int64.setJsonVal (utf8 "MaxNameLength") w.maxNameLength d.maxNameLength,
  uint64.setJsonVal (utf8 "MinLinesDisplayed") w.minLinesDisplayed d.minLinesDisplayed,
  uint64.setJsonVal (utf8 "MaxLinesDisplayed") w.maxLinesDisplayed d.maxLinesDisplayed,
  uint64.setJsonVal (utf8 "FixedWindowWidth") w.fixedWindowWidth d.fixedWindowWidth]

/-- `ToJson`, which leaves null where nothing differs from the defaults `d`. -/
def toJson (d : HealWindowOptions) : Json := .write (w.members d) .null

def fromJson (j : Json) : HealWindowOptions where
  shown := boolean.getJsonValue j (utf8 "Shown") w.shown
  dataSourceChoice := int32.getJsonValue j (utf8 "DataSourceChoice") w.dataSourceChoice
  sortOrderChoice := int32.getJsonValue j (utf8 "SortOrderChoice") w.sortOrderChoice
  combatEndConditionChoice := int32.getJsonValue j (utf8 "CombatEndConditionChoice")
    w.combatEndConditionChoice
  excludeGroup := boolean.getJsonValue j (utf8 "ExcludeGroup") w.excludeGroup
  excludeOffGroup := boolean.getJsonValue j (utf8 "ExcludeOffGroup") w.excludeOffGroup
  excludeOffSquad := boolean.getJsonValue j (utf8 "ExcludeOffSquad") w.excludeOffSquad
  excludeMinions := boolean.getJsonValue j (utf8 "ExcludeMinions") w.excludeMinions
  excludeUnmapped := boolean.getJsonValue j (utf8 "ExcludeUnmapped") w.excludeUnmapped
  excludeHealing := boolean.getJsonValue j (utf8 "ExcludeHealing") w.excludeHealing
  excludeBarrierGeneration := boolean.getJsonValue j (utf8 "ExcludeBarrierGeneration")
    w.excludeBarrierGeneration
  excludeAgainstDowned := boolean.getJsonValue j (utf8 "ExcludeAgainstDowned")
    w.excludeAgainstDowned
  excludeAgainstNonDowned := boolean.getJsonValue j (utf8 "ExcludeAgainstNonDowned")
    w.excludeAgainstNonDowned
  includedSkills := cstring.getJsonValue j (utf8 "IncludedSkills") w.includedSkills
  showProgressBars := boolean.getJsonValue j (utf8 "ShowProgressBars") w.showProgressBars
  useSubgroupForBarColour := boolean.getJsonValue j (utf8 "UseSubgroupForBarColour")
    w.useSubgroupForBarColour
  useProfessionForBarColour := boolean.getJsonValue j (utf8 "UseProfessionForBarColour")
    w.useProfessionForBarColour
  indexNumbers := boolean.getJsonValue j (utf8 "IndexNumbers") w.indexNumbers
  professionText := boolean.getJsonValue j (utf8 "ProfessionText") w.professionText
  professionIcons := boolean.getJsonValue j (utf8 "ProfessionIcons") w.professionIcons
  replacePlayerWithAccountName := boolean.getJsonValue j (utf8 "ReplacePlayerWithAccountName")
    w.replacePlayerWithAccountName
  useProfessionForNameColour := boolean.getJsonValue j (utf8 "UseProfessionForNameColour")
    w.useProfessionForNameColour
  useSubgroupForNameColour := boolean.getJsonValue j (utf8 "UseSubgroupForNameColour")
    w.useSubgroupForNameColour
  selfOnTop := boolean.getJsonValue j (utf8 "SelfOnTop") w.selfOnTop
  hideSelfFromList := boolean.getJsonValue j (utf8 "HideSelfFromList") w.hideSelfFromList
  selfOnly := boolean.getJsonValue j (utf8 "SelfOnly") w.selfOnly
  anonymousMode := boolean.getJsonValue j (utf8 "AnonymousMode") w.anonymousMode
  name := cstring.getJsonValue j (utf8 "Name") w.name
  titleFormat := cstring.getJsonValue j (utf8 "TitleFormat") w.titleFormat
  entryFormat := cstring.getJsonValue j (utf8 "EntryFormat") w.entryFormat
  detailsEntryFormat := cstring.getJsonValue j (utf8 "DetailsEntryFormat") w.detailsEntryFormat
  windowFlags := int32.getJsonValue j (utf8 "WindowFlags") w.windowFlags
  hotkey := int32.getJsonValue j (utf8 "Hotkey") w.hotkey
  positionRule := int32.getJsonValue j (utf8 "PositionRule") w.positionRule
  relativeScreenCorner := int32.getJsonValue j (utf8 "RelativeScreenCorner") w.relativeScreenCorner
  relativeSelfCorner := int32.getJsonValue j (utf8 "RelativeSelfCorner") w.relativeSelfCorner
  relativeAnchorWindowCorner := int32.getJsonValue j (utf8 "RelativeAnchorWindowCorner")
    w.relativeAnchorWindowCorner
  relativeX := int64.getJsonValue j (utf8 "RelativeX") w.relativeX
  relativeY := int64.getJsonValue j (utf8 "RelativeY") w.relativeY
  anchorWindowId := uint32.getJsonValue j (utf8 "AnchorWindowId") w.anchorWindowId
  autoResize := boolean.getJsonValue j (utf8 "AutoResize") w.autoResize
  maxNameLength := int64.getJsonValue j (utf8 "MaxNameLength") w.maxNameLength
  minLinesDisplayed := uint64.getJsonValue j (utf8 "MinLinesDisplayed") w.minLinesDisplayed
  maxLinesDisplayed := uint64.getJsonValue j (utf8 "MaxLinesDisplayed") w.maxLinesDisplayed
  fixedWindowWidth := uint64.getJsonValue j (utf8 "FixedWindowWidth") w.fixedWindowWidth

end HealWindowOptions

abbrev AutoUpdateSettingEnum := UInt8

namespace AutoUpdateSettingEnum

def off : AutoUpdateSettingEnum := 0
def on : AutoUpdateSettingEnum := 1
def preReleases : AutoUpdateSettingEnum := 2

end AutoUpdateSettingEnum

/-- `spdlog::level::off`. -/
def logLevelOff : Enumeration := 6

/-- What the constructor makes of each window. -/
def freshWindow (i : Fin healWindowCount) : HealWindowOptions :=
  match i.val with
  | 0 =>
    { dataSourceChoice := DataSource.totals
      name := .copy (utf8 "總計")
      titleFormat := .copy (utf8 "總計 (進入戰鬥{1}秒)")
      entryFormat := .copy (utf8 "{1} ({4}/秒)") }
  | 1 =>
    { dataSourceChoice := DataSource.agents
      name := .copy (utf8 "目標")
      titleFormat := .copy (utf8 "目標 {1} ({4}/秒，進入戰鬥{7}秒)") }
  | 2 =>
    { dataSourceChoice := DataSource.skills
      name := .copy (utf8 "技能")
      titleFormat := .copy (utf8 "技能 {1} ({4}/秒，進入戰鬥{7}秒)") }
  | 3 =>
    { dataSourceChoice := DataSource.agents
      name := .copy (utf8 "目標 (命中數)")
      titleFormat := .copy (utf8 "目標 {1} ({5}/每命中, {2} 次命中)")
      entryFormat := .copy (utf8 "{1} ({5}/每命中, {2} 次命中)")
      detailsEntryFormat := .copy (utf8 "{1} ({5}/每命中, {2} 次命中)") }
  | 4 =>
    { dataSourceChoice := DataSource.skills
      name := .copy (utf8 "技能 (命中數)")
      titleFormat := .copy (utf8 "技能 {1} ({5}/每命中, {2} 次命中)")
      entryFormat := .copy (utf8 "{1} ({5}/每命中, {2} 次命中)")
      detailsEntryFormat := .copy (utf8 "{1} ({5}/每命中, {2} 次命中)") }
  | 5 =>
    { dataSourceChoice := DataSource.peersOutgoing
      name := .copy (utf8 "隊員輸出治療")
      titleFormat := .copy (utf8 "輸出治療 {1} ({4}/秒，進入戰鬥{7}秒)") }
  | 6 =>
    { dataSourceChoice := DataSource.peersOutgoing
      excludeHealing := true
      excludeBarrierGeneration := false
      excludeAgainstDowned := false
      excludeAgainstNonDowned := false
      name := .copy (utf8 "隊友屏障產生")
      titleFormat := .copy (utf8 "屏障產生 {1} ({4}/秒，進入戰鬥{7}秒)") }
  | 9 =>
    { dataSourceChoice := DataSource.combined
      name := .copy (utf8 "綜合")
      titleFormat := .copy (utf8 "綜合 {1} ({4}/秒，進入戰鬥{7}秒)") }
  | _ => {}

/-- The settings that are kept in the file, with what the constructor sets. -/
structure HealTableOptions where
  autoUpdateSetting : AutoUpdateSettingEnum := AutoUpdateSettingEnum.on
  debugMode : Bool := false
  grpcDnsResolverCAres : Bool := false
  logLevel : Enumeration := logLevelOff
  evtcLoggingEnabled : Bool := true
  evtcRpcEndpoint : FixedString 128 := .copy (utf8 "evtc-rpc.kappa322.com")
  evtcRpcEnabled : Bool := false
  evtcRpcBudgetMode : Bool := false
  evtcRpcDisableEncryption : Bool := false
  evtcRpcEnabledHotkey : Int32 := 0
  windows : Fin healWindowCount → HealWindowOptions := freshWindow

namespace HealTableOptions

variable (o : HealTableOptions)

def windowMembers (d : HealTableOptions) : List Json.Member :=
  (List.finRange healWindowCount).map fun i =>
    let window := (o.windows i).toJson (d.windows i)
    ⟨Json.digits i, !window.isNull, window⟩

def windowsToJson (d : HealTableOptions) : Json := .write (o.windowMembers d) .null

def members (d : HealTableOptions) : List Json.Member := [
  ⟨utf8 "Version", true, .unsigned 1⟩,
  uint8.setJsonVal (utf8 "AutoUpdateSetting") o.autoUpdateSetting d.autoUpdateSetting,
  boolean.setJsonVal (utf8 "DebugMode") o.debugMode d.debugMode,
  boolean.setJsonVal (utf8 "GrpcDnsResolverCAres") o.grpcDnsResolverCAres d.grpcDnsResolverCAres,
  int32.setJsonVal (utf8 "LogLevel") o.logLevel d.logLevel,
  boolean.setJsonVal (utf8 "EvtcLoggingEnabled") o.evtcLoggingEnabled d.evtcLoggingEnabled,
  cstring.setJsonVal (utf8 "EvtcRpcEndpoint") o.evtcRpcEndpoint d.evtcRpcEndpoint,
  boolean.setJsonVal (utf8 "EvtcRpcEnabled") o.evtcRpcEnabled d.evtcRpcEnabled,
  boolean.setJsonVal (utf8 "EvtcRpcBudgetMode") o.evtcRpcBudgetMode d.evtcRpcBudgetMode,
  boolean.setJsonVal (utf8 "EvtcRpcDisableEncryption")
    o.evtcRpcDisableEncryption d.evtcRpcDisableEncryption,
  int32.setJsonVal (utf8 "EvtcRpcEnabledHotkey") o.evtcRpcEnabledHotkey d.evtcRpcEnabledHotkey,
  ⟨utf8 "Windows", !(o.windowsToJson d).isNull, o.windowsToJson d⟩]

def toJson : Json := .write (o.members {}) .null

/-- `FromJson`. A version that is not 1 is logged only. -/
def fromJson (j : Json) : HealTableOptions where
  autoUpdateSetting := uint8.getJsonValue j (utf8 "AutoUpdateSetting") o.autoUpdateSetting
  debugMode := boolean.getJsonValue j (utf8 "DebugMode") o.debugMode
  grpcDnsResolverCAres := boolean.getJsonValue j (utf8 "GrpcDnsResolverCAres")
    o.grpcDnsResolverCAres
  logLevel := int32.getJsonValue j (utf8 "LogLevel") o.logLevel
  evtcLoggingEnabled := boolean.getJsonValue j (utf8 "EvtcLoggingEnabled") o.evtcLoggingEnabled
  evtcRpcEndpoint := cstring.getJsonValue j (utf8 "EvtcRpcEndpoint") o.evtcRpcEndpoint
  evtcRpcEnabled := boolean.getJsonValue j (utf8 "EvtcRpcEnabled") o.evtcRpcEnabled
  evtcRpcBudgetMode := boolean.getJsonValue j (utf8 "EvtcRpcBudgetMode") o.evtcRpcBudgetMode
  evtcRpcDisableEncryption := boolean.getJsonValue j (utf8 "EvtcRpcDisableEncryption")
    o.evtcRpcDisableEncryption
  evtcRpcEnabledHotkey := int32.getJsonValue j (utf8 "EvtcRpcEnabledHotkey") o.evtcRpcEnabledHotkey
  windows i :=
    match j.find (utf8 "Windows") with
    | some (.object windows) =>
      match windows.find (Json.digits i) with
      | some window => (o.windows i).fromJson window
      | none => o.windows i
    | _ => o.windows i

end HealTableOptions

/-- The library that writes and reads JSON. Either can throw. -/
structure JsonLibrary where
  dump : Json → Option Text
  parse : Text → Option Json

namespace HealTableOptions

variable (lib : JsonLibrary) (o : HealTableOptions)

/-- What `Save` writes to the file. -/
def save : Option Text := lib.dump o.toJson

def bufferSize : Nat := 128 * 1024

/-- `Load` of a file that exists, into a buffer. -/
def load (file : Text) : HealTableOptions :=
  let buffer := file.take (bufferSize - 1)
  if buffer.length = bufferSize - 1 then o
  else
    match lib.parse (buffer.takeWhile (· ≠ 0)) with
    | none => o
    | some j => o.fromJson j

end HealTableOptions

end ArcdpsHealing.Settings
