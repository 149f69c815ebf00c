import RustyCrew.Brain.Coordinator

namespace RustyCrew.Brain

open Library Protocol

structure TurnHistory where
  accepted : List BrainWakeStreamItem := []
  drained : List SequencedBrainWakeStreamItem := []
  delivered : List BufferedNeutralPendingToolRequest := []
  outputs : List (String × BufferedNeutralToolOutput) := []
  results : List (String × BufferedBrainHostToolResult) := []
  polled : List (String × BufferedNeutralToolOutput) := []
  deriving DecidableEq

def TurnHistory.record (history : TurnHistory) : TurnCall → TurnReply → TurnHistory
  | .enqueueStreamItem item _, _ => { history with accepted := history.accepted ++ [item] }
  | .enqueueProviderStreamItem item _ _, _ =>
    { history with accepted := history.accepted ++ [item] }
  | .drainStream _ _, .drain drain => { history with drained := history.drained ++ drain.items }
  | .drainHostToolRequests _ _, .requests requests =>
    { history with delivered := history.delivered ++ requests }
  | .submitToolOutput callId output _, .receipt .accepted =>
    { history with outputs := history.outputs ++ [(callId, output)] }
  | .submitHostToolResult callId result _, .submission ⟨.accepted, decision⟩ =>
    { history with
      outputs := history.outputs ++ [(callId, decision.providerOutput)]
      results := history.results ++ [(callId, result)] }
  | .pollSubmittedToolOutput callId _, .output (some output) =>
    { history with polled := history.polled ++ [(callId, output)] }
  | .pollSubmittedHostToolOutput callId _, .hostOutput (some host) =>
    { history with polled := history.polled ++ [(callId, host.output)] }
  | _, _ => history

structure ObservedTurn where
  turn : BufferedBrainTurnCoordinator
  history : TurnHistory
  deriving DecidableEq

def ObservedTurn.step (observed : ObservedTurn) (call : TurnCall) : ObservedTurn :=
  match call.perform observed.turn with
  | (.ok reply, turn) => ⟨turn, observed.history.record call reply⟩
  | (.error _, turn) => ⟨turn, observed.history⟩

end RustyCrew.Brain
