/-!
# Intent — lifecycle intents and the state they declare

An intent names the transition that the caller wants.  The three that start the node declare a
state, whose token the database's own startup reads to pick its boot path.
-/

namespace Sidecar

/-- The service that only votes: **it holds no data and must not bootstrap a cluster.** -/
def arbitratorService : String := "garbd"

/-- **The arbitrator is known by its service's name**, and by nothing else. -/
def isArbitrator (service : String) : Bool := service == arbitratorService

/-- What the node is to find when it boots. -/
inductive DeclaredState where
  | needsBootstrap
  | clustered
  | singleNode
deriving DecidableEq, Repr

/-- The text that a marker file holds. -/
def DeclaredState.token : DeclaredState → String
  | needsBootstrap => "NEEDS_BOOTSTRAP"
  | clustered => "CLUSTERED"
  | singleNode => "SINGLE_NODE"

/-- What an operator wants of a node. -/
inductive Intent where
  | bootstrap
  | join
  | singleNode
  | stop
deriving DecidableEq, Repr

namespace Intent

/-- All that an operator may want. -/
def all : List Intent := [bootstrap, join, singleNode, stop]

/-- The name of an intent, as it is typed. -/
def name : Intent → String
  | bootstrap => "bootstrap"
  | join => "join"
  | singleNode => "single-node"
  | stop => "stop"

/-- The intent of a name. -/
def ofName? (text : String) : Option Intent := all.find? (·.name == text)

/-- The state declared before the start command; **stopping declares none.** -/
def declared : Intent → Option DeclaredState
  | bootstrap => some .needsBootstrap
  | join => some .clustered
  | singleNode => some .singleNode
  | stop => none

/-- What is printed when an intent has been carried out. -/
def successMessage : Intent → String
  | bootstrap => "cluster bootstrap successful"
  | join => "join cluster successful"
  | singleNode => "single node start successful"
  | stop => "stop successful"

end Intent

end Sidecar
