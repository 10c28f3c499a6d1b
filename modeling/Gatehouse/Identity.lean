namespace Gatehouse

structure UserId where
  number : Int
  deriving DecidableEq, Repr, Inhabited

/-- The number of a stored credential; zero as long as it has none. -/
structure CredentialId where
  number : Int
  deriving DecidableEq, Repr, Inhabited

namespace UserId

def root : UserId := ⟨-1⟩

def anonymous : UserId := ⟨-2⟩

/-- Whether the store can have given this number. -/
def isAssigned (i : UserId) : Bool := decide (0 < i.number)

end UserId

def CredentialId.isAssigned (i : CredentialId) : Bool := decide (0 < i.number)

structure User where
  id : UserId
  username : String
  deriving DecidableEq, Repr, Inhabited

namespace User

def root : User := ⟨.root, "root"⟩

def anonymous : User := ⟨.anonymous, "anonymous"⟩

def isRoot (u : User) : Bool := u.id == .root

end User

end Gatehouse
