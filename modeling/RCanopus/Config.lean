import RCanopus.Const

/-!
# The configuration of `config.h`
-/

namespace RCanopus

/-- The address and port of one SL. -/
structure SockAddrIn where
  sinAddr : UInt32
  sinPort : UInt16
  deriving DecidableEq, Repr

structure BGInfo where
  failure : Int
  addr : List SockAddrIn
  deriving DecidableEq, Repr

/-- `Config`. The two ids are not negative because `parseFromFile` rejects negative ones. -/
structure Config where
  rgBGInfo : List BGInfo
  bGid : Nat
  sLid : Nat
  globalFailures : Int
  deriving DecidableEq, Repr

namespace Config

variable (conf : Config)

def numBG : Nat := conf.rgBGInfo.length

def numSL (bg : Nat) : Nat := (conf.rgBGInfo[bg]?.map fun info => info.addr.length).getD 0

def getF (bg : Nat) : Int := (conf.rgBGInfo[bg]?.map BGInfo.failure).getD 0

/-- `isRound2Leader`. There is no view change, so the leader of every BG is its SL 0. -/
def isRound2Leader : Bool := conf.sLid == 0

/-- The configuration as one SL reads it: the same file but for the last line. -/
def ofSL (bg sl : Nat) : Config := { conf with bGid := bg, sLid := sl }

@[simp] theorem ofSL_numBG (bg sl : Nat) : (conf.ofSL bg sl).numBG = conf.numBG := rfl

@[simp] theorem ofSL_numSL (bg sl k : Nat) : (conf.ofSL bg sl).numSL k = conf.numSL k := rfl

@[simp] theorem ofSL_getF (bg sl k : Nat) : (conf.ofSL bg sl).getF k = conf.getF k := rfl

@[simp] theorem ofSL_bGid (bg sl : Nat) : (conf.ofSL bg sl).bGid = bg := rfl

@[simp] theorem ofSL_sLid (bg sl : Nat) : (conf.ofSL bg sl).sLid = sl := rfl

@[simp] theorem ofSL_isRound2Leader (bg sl : Nat) :
    (conf.ofSL bg sl).isRound2Leader = (sl == 0) := rfl

end Config

end RCanopus
