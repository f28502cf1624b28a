import CoprocReset.Station

/-!
# Publishers

A publisher makes the attribute of an attached device reachable for others. It is a pair of
scripts: a publisher acts on what it keeps itself, and it may ask the controller what anyone may
ask. It has no way to take the lines from a controller.
-/

namespace CoprocReset

/-- What a publisher can do, by the type of the answer: something on what it keeps itself, or a
request to a controller. -/
inductive PublisherCall (P : Type) : Type → Type 1 where
  | own {α : Type} (action : Action P α) : PublisherCall P α
  | request {α : Type} (handle : Handle) (request : Request α) : PublisherCall P α

/-- A script of a publisher. -/
abbrev PublisherScript (P α : Type) := Script Failure (PublisherCall P) α

/-- How attributes are made reachable, by what is kept for it. -/
structure Publisher (P : Type) where
  publish (attributeName : String) (handle : Handle) : PublisherScript P Unit
  unpublish (attributeName : String) : PublisherScript P Unit

namespace Publisher

variable {W L P α : Type}

/-- The action that a call stands for. -/
def perform (hw : Hardware W L) : PublisherCall P α → Action (Station W L P) α
  | .own action => action.on Station.publisherPart
  | .request handle request => Station.request hw handle request

/-- The script carried out at a station. -/
def exec (hw : Hardware W L) (script : PublisherScript P α) : Action (Station W L P) α :=
  script.exec (perform hw)

end Publisher

end CoprocReset
