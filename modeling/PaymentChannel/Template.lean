import PaymentChannel.Template.Commit
import PaymentChannel.Template.Deposit

/-! Scripts of either template. -/
namespace PaymentChannel

inductive Template
  | deposit (terms : DepositTerms)
  | commit (terms : CommitTerms)
deriving DecidableEq

namespace Template

def kind : Template → TemplateKind
  | .deposit _ => .deposit
  | .commit _ => .commit

def toScript : Template → Script
  | .deposit terms => terms.toScript
  | .commit terms => terms.toScript

def ofScript (script : Script) : Except Fault Template :=
  match DepositTerms.ofScript script with
  | .ok terms => .ok (.deposit terms)
  | .error _ =>
    match CommitTerms.ofScript script with
    | .ok terms => .ok (.commit terms)
    | .error _ => .error (.noTemplate script)

theorem toScript_of_ofScript {script : Script} {template : Template}
    (ok : ofScript script = .ok template) : template.toScript = script := by
  simp only [ofScript] at ok
  split at ok
  · rename_i terms found
    cases ok
    exact DepositTerms.toScript_of_ofScript found
  · split at ok
    · rename_i terms found
      cases ok
      exact CommitTerms.toScript_of_ofScript found
    · cases ok

end Template
end PaymentChannel
