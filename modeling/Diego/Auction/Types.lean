import Diego.Models.Scheduling

/-!
# The auction's requests and results

`auction/auctiontypes`: the auctions of LRPs and tasks, the request and the results of one
round, and the reasons for which an auction fails.  Times are in nanoseconds.

A result differs from the auction that was requested in what the auction wrote into it.
`LRPAuction.requested` and `TaskAuction.requested` take that out again, so that results can
be compared with requests.
-/

namespace Diego.Auction

open Models

/-! ## Placement errors -/

inductive PlacementError
  | cellMismatch
  | volumeDriverMismatch
  | placementTagMismatch (tags : List String)
  | insufficientResources (problems : InsufficientResourcesError)
  | cellCommunication
  | exceededInflightCreation
  deriving DecidableEq, Inhabited

namespace PlacementError

def quote (tag : String) : String :=
  "\"" ++ tag ++ "\""

def placementTagMismatchError (tags : List String) : String :=
  match tags.reverse with
  | [] => "found no compatible cell with no placement tags"
  | [tag] => "found no compatible cell with placement tag " ++ quote tag
  | lastTag :: tags =>
    "found no compatible cell with placement tags " ++
      ", ".intercalate (tags.reverse.map quote) ++ " and " ++ quote lastTag

def error : PlacementError → String
  | cellMismatch => "found no compatible cell for required rootfs"
  | volumeDriverMismatch => "found no compatible cell with required volume drivers"
  | placementTagMismatch tags => placementTagMismatchError tags
  | insufficientResources problems => problems.error
  | cellCommunication => "unable to communicate to compatible cells"
  | exceededInflightCreation => "waiting to start instance: reached in-flight start limit"

end PlacementError

/-! ## Auctions -/

structure AuctionRecord where
  winner : String := ""
  attempts : Int := 0
  queueTime : Int
  waitDuration : Int := 0
  placementError : String := ""
  deriving DecidableEq, Inhabited

structure LRPAuction extends SchedulingLRP, AuctionRecord where
  deriving DecidableEq, Inhabited

structure TaskAuction extends SchedulingTask, AuctionRecord where
  deriving DecidableEq, Inhabited

namespace LRPAuction

def copy (auction : LRPAuction) : LRPAuction :=
  { auction with toSchedulingLRP := auction.toSchedulingLRP.copy }

/-- The auction without its state and without what an auction writes into it, except for
the attempts. -/
def requested (auction : LRPAuction) : LRPAuction :=
  { auction with state := "", winner := "", waitDuration := 0, placementError := "" }

/-- One more attempt. -/
def attempted (auction : LRPAuction) : LRPAuction :=
  { auction with attempts := auction.attempts + 1 }

end LRPAuction

namespace TaskAuction

def copy (auction : TaskAuction) : TaskAuction :=
  { auction with toSchedulingTask := auction.toSchedulingTask.copy }

/-- The auction without what an auction writes into it, except for the attempts. -/
def requested (auction : TaskAuction) : TaskAuction :=
  { auction with winner := "", waitDuration := 0, placementError := "" }

/-- One more attempt. -/
def attempted (auction : TaskAuction) : TaskAuction :=
  { auction with attempts := auction.attempts + 1 }

end TaskAuction

structure AuctionRequest where
  lrps : List LRPAuction
  tasks : List TaskAuction
  deriving DecidableEq, Inhabited

structure AuctionResults where
  successfulLRPs : List LRPAuction
  successfulTasks : List TaskAuction
  failedLRPs : List LRPAuction
  failedTasks : List TaskAuction
  deriving DecidableEq, Inhabited

end Diego.Auction
