import RCanopus.Baseline.Dispatcher
import RCanopus.Cluster

/-!
# All SLs of all BGs in the baseline variant

The nodes, the links and the steps are those of `ConnManager.cpp`: `start()`, `sender()`, the
clients and the pipe are the same in both files. Only the dispatcher is another one.
-/

namespace RCanopus.Baseline

structure Node where
  sl : ConnManager
  inbox : List QueueElement
  /-- How many elements of the juggle queue the running pass still has to dispatch. -/
  passLeft : Nat
  /-- An exception left `start()`. -/
  crashed : Bool
  /--
  Bytes written to `leader_send_to_self_pipe` that no empty message stands for: what waits in the
  pipe, and what the listener has read and lost when it threw.
  -/
  pipe : Nat
  /--
  An exception left `listener()`. Of what comes from the peers, only what was on its way by then can
  still be in `recvQueue`: it is in this many first elements of the inbox.
  -/
  listenerEnded : Option Nat

/-- Element `i` of the inbox can be in `recvQueue`. What an SL sends to itself is in any case. -/
def Node.receivable (node : Node) (i : Nat) (pElement : QueueElement) : Bool :=
  match node.listenerEnded with
  | none => true
  | some k => decide (i < k) || pElement.upPeers == [none]

abbrev Cluster := Peer → Node

namespace Cluster

/-- All servers have started and nothing was sent. -/
def init : Cluster := fun _ =>
  { sl := .init, inbox := [], passLeft := 0, crashed := false, pipe := 0,
    listenerEnded := none }

/-! ## Sending -/

/-- The copies of one element of the `sendQueue` of `x` that `sender()` makes for `y`. -/
def deliveries (x : Peer) (element : QueueElement) (y : Peer) : List QueueElement :=
  (if y = x ∧ element.upPeers.contains none then
    [{ upPeers := [none], pMessage := element.pMessage.copy }] else [])
    ++ (element.upPeers.filter (· = some y)).map
        fun _ => { upPeers := [some x], pMessage := element.pMessage.copy }

/-- `sender()` of `x` on some elements. -/
def send (x : Peer) (elements : List QueueElement) (σ : Cluster) : Cluster := fun y =>
  { σ y with inbox := (σ y).inbox ++ elements.flatMap fun e => deliveries x e y }

/-! ## Steps -/

/-- An outcome of the dispatcher at `x`: the new state of the node and what it sends. -/
def install (x : Peer) (node : Node) (o : Outcome) (σ : Cluster) : Cluster :=
  send x o.state.sendQueue (Function.update σ x
    { node with
      sl := { o.state with sendQueue := [] }
      crashed := match o with
        | .ok _ => false
        | .thrown _ _ => true })

/-- The main loop of `x` takes element `i` of its inbox and starts the pass over what is juggled. -/
def receive (d : Deployment) (x : Peer) (i : Nat) (ω : Choice) (σ : Cluster) : Option Cluster :=
  let node := σ x
  match node.inbox[i]? with
  | none => none
  | some pElement =>
    if d.Has x ∧ node.crashed = false ∧ node.passLeft = 0 ∧ node.receivable i pElement then
      let o := dispatcherRound2 (d.env x) ω pElement node.sl
      some (install x
        { node with
          inbox := node.inbox.eraseIdx i
          passLeft := o.state.juggleQueue.length
          listenerEnded := node.listenerEnded.map fun k => if i < k then k - 1 else k } o σ)
    else none

/-- The pass of the main loop of `x` takes the front of the juggle queue. -/
def retry (d : Deployment) (x : Peer) (ω : Choice) (σ : Cluster) : Option Cluster :=
  let node := σ x
  match node.sl.juggleQueue with
  | [] => none
  | pElement :: rest =>
    if d.Has x ∧ node.crashed = false ∧ 0 < node.passLeft then
      some (install x { node with passLeft := node.passLeft - 1 }
        (dispatcherRound2 (d.env x) ω pElement { node.sl with juggleQueue := rest }) σ)
    else none

/-- `mockClient` of an SL that is not the leader sends a batch to the leader. -/
def clientTick (d : Deployment) (x : Peer) (content : List UInt8) (σ : Cluster) :
    Option Cluster :=
  if d.Has x ∧ x.2 ≠ 0 ∧ content.length = requestBatchSize then
    some (send x
      [{ upPeers := [some (x.1, 0)]
         pMessage := .common (.round2Request (mockClientRequest x.2 content)) }] σ)
  else none

/-- `mockClientOnLeader` counts a batch and writes two bytes to the pipe. -/
def leaderTick (d : Deployment) (bg : Nat) (σ : Cluster) : Option Cluster :=
  if d.Has (bg, 0) then
    let node := σ (bg, 0)
    some (Function.update σ (bg, 0)
      { node with
        sl :=
          { node.sl with
            common :=
              { node.sl.common with
                leaderBatchReceivedFromSelf :=
                  node.sl.common.leaderBatchReceivedFromSelf + 1 } }
        pipe := node.pipe + 2 })
  else none

/--
`listener` drains the pipe and queues an empty message, unless the bytes fill its buffer: then it
throws, and its thread ends. The bytes that it has read by then still count as `pipe`, which nobody
reads any more.
-/
def pipeReadable (d : Deployment) (bg : Nat) (σ : Cluster) : Option Cluster :=
  let node := σ (bg, 0)
  if d.Has (bg, 0) ∧ 0 < node.pipe ∧ node.listenerEnded = none then
    some (Function.update σ (bg, 0)
      (if node.pipe < pipeReadBuffer then
        { node with
          inbox := node.inbox ++
            [{ upPeers := [none], pMessage := .common (.empty emptyMessage) }]
          pipe := 0 }
      else { node with listenerEnded := some node.inbox.length }))
  else none

inductive Label where
  | receive (x : Peer) (i : Nat) (ω : Choice)
  | retry (x : Peer) (ω : Choice)
  | clientTick (x : Peer) (content : List UInt8)
  | leaderTick (bg : Nat)
  | pipeReadable (bg : Nat)

def step (d : Deployment) (σ : Cluster) : Label → Option Cluster
  | .receive x i ω => receive d x i ω σ
  | .retry x ω => retry d x ω σ
  | .clientTick x content => clientTick d x content σ
  | .leaderTick bg => leaderTick d bg σ
  | .pipeReadable bg => pipeReadable d bg σ

/-- The steps of a run, one after the other. -/
def run (d : Deployment) (σ : Cluster) : List Label → Option Cluster
  | [] => some σ
  | l :: rest => (step d σ l).bind fun σ' => run d σ' rest

def Step (d : Deployment) (σ σ' : Cluster) : Prop := ∃ l, step d σ l = some σ'

/-- The states of all runs. -/
def Reachable (d : Deployment) (σ : Cluster) : Prop := Relation.ReflTransGen (Step d) init σ

end Cluster

end RCanopus.Baseline
