import CaseMatch.Case.Basic

/-!
A case tries its clauses by themselves and in order. The first that matches decides what the case
comes to. Where none matches, the failure of the last clause is reported.
-/

namespace CaseMatch

namespace Case

end Case

end CaseMatch
