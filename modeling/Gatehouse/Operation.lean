namespace Gatehouse

inductive Operation
  | healthCheck
  | listOperations
  | whoAmI
  | editUser
  | generateEnrollmentLink
  | authorizeHttp
  | startEnrollment
  | finishEnrollment
  | startLogin
  | finishLogin
  deriving DecidableEq, Repr

namespace Operation

def all : List Operation := [.healthCheck, .listOperations, .whoAmI, .editUser,
  .generateEnrollmentLink, .authorizeHttp, .startEnrollment, .finishEnrollment, .startLogin,
  .finishLogin]

/-- Where the operation is called, which is also what it is called in messages. -/
def path : Operation → String
  | .healthCheck => "/rpc/Health/Check"
  | .listOperations => "/rpc/Reflection/ListOperations"
  | .whoAmI => "/rpc/User/WhoAmI"
  | .editUser => "/rpc/User/Edit"
  | .generateEnrollmentLink => "/rpc/User/GenerateEnrollmentLink"
  | .authorizeHttp => "/rpc/Session/AuthorizeHTTP"
  | .startEnrollment => "/rpc/Enrollment/Start"
  | .finishEnrollment => "/rpc/Enrollment/Finish"
  | .startLogin => "/rpc/Login/Start"
  | .finishLogin => "/rpc/Login/Finish"

def ofPath? (path : String) : Option Operation := all.find? fun o ↦ o.path == path

theorem mem_all (o : Operation) : o ∈ all := by cases o <;> decide

theorem ofPath?_path (o : Operation) : ofPath? o.path = some o := by cases o <;> decide

theorem path_injective {o p : Operation} (h : o.path = p.path) : o = p :=
  Option.some.inj <| by rw [← ofPath?_path o, ← ofPath?_path p, h]

end Operation

end Gatehouse
