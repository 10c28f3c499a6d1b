import Gatehouse.Proofs.Authority.Lifetimes
import Gatehouse.Proofs.Token.Opening

namespace Gatehouse.Authority

end Gatehouse.Authority
