import ArcdpsHealing.Stats.GroupTotals

namespace ArcdpsHealing.Stats

open Arcdps Lib Processor Settings

/-- `GetStats`. Whatever is neither skills nor agents shows the totals. -/
def AggregatedStats.getStats (x : AggregatedStats) (skills : SkillTable)
    (dataSource : Enumeration) : AggregatedVector :=
  if dataSource = DataSource.skills then x.getSkills skills none
  else if dataSource = DataSource.agents then x.getAgents none
  else x.getGroupFilterTotals

/-- `AggregatedStatsCollection`, with the entry of self that its constructor
asserts. All players are shown with the same options. -/
structure AggregatedStatsCollection where
  peerStates : Std.ExtTreeMap UInt64 (HealedAgent × HealingStats)
  localUniqueId : UInt64
  known : localUniqueId ∈ peerStates
  mOptions : HealWindowOptions
  mDebugMode : Bool

namespace AggregatedStatsCollection

variable (c : AggregatedStatsCollection) (skills : SkillTable)

def stats (data : HealingStats) : AggregatedStats where
  mySourceData := data
  myOptions := c.mOptions
  myDebugMode := c.mDebugMode

def localState : AggregatedStats := c.stats (c.peerStates.get c.localUniqueId c.known).2

/-- `AggregatedStats::Sort`, which is static, of the entries of a vector. -/
def sort (v : AggregatedVector) : AggregatedVector := c.localState.sort v

def peerEntry (row : UInt64 × HealedAgent × HealingStats) : AggregatedStatsEntry :=
  { (c.stats row.2.2).getTotal skills with
    id := row.1
    name := row.2.1.name
    timeInCombat := (c.stats row.2.2).getCombatTime }

/-- The rows of `DataSource::PeersOutgoing`. -/
def peersOutgoing : AggregatedVector :=
  c.sort (c.peerStates.toList.foldl (fun v row => v.add (c.peerEntry skills row)) {})

def getStats (dataSource : Enumeration) : AggregatedVector :=
  if dataSource ≠ DataSource.peersOutgoing then c.localState.getStats skills dataSource
  else c.peersOutgoing skills

def getDetails (dataSource : Enumeration) (id : UInt64) : AggregatedVector :=
  if dataSource ≠ DataSource.peersOutgoing then c.localState.getDetails skills dataSource id
  else
    match c.peerStates[id]? with
    | none => {}
    | some (_, data) => (c.stats data).getStats skills DataSource.skills

/-- `GetTotal`. -/
def getTotal (dataSource : Enumeration) : Tally :=
  if dataSource ≠ DataSource.peersOutgoing then c.localState.getTotal skills
  else total (·.toTally) (c.getStats skills dataSource).entries

def getGroupFilterTotals : AggregatedVector := c.localState.getGroupFilterTotals

end AggregatedStatsCollection

end ArcdpsHealing.Stats
