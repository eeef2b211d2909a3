/-
This file checks that a report mentions every scenario that its feature must cover.

A feature is known by parts of its name, in letters of either size. Each of its scenarios is
covered if one of a few key words occurs in the report, and the report must have a section in
which it checks itself. For an unknown feature there is nothing to check.
-/

import BrowserPlan.Json.Basic
import BrowserPlan.Text.Case

namespace BrowserPlan.Report

/-! ### Features -/

/-- A scenario and the words of which one must occur. -/
structure Scenario where
  key : Text
  words : List Text
  deriving DecidableEq, Repr

/-- A feature: the parts of names by which it is known, and its scenarios. -/
structure Feature where
  aliases : List Text
  scenarios : List Scenario
  deriving DecidableEq, Repr

/-- Logging in. -/
def loginFeature : Feature where
  aliases := ["ログイン", "login"]
  scenarios :=
    [⟨"successful_login", ["正常", "成功", "ログイン成功"]⟩,
      ⟨"mfa", ["MFA", "多要素", "二要素", "ワンタイム", "OTP"]⟩,
      ⟨"lockout", ["ロック", "試行制限", "アカウントロック"]⟩,
      ⟨"invalid_input", ["誤ったパスワード", "不正", "無効", "存在しない"]⟩,
      ⟨"security", ["SQLインジェクション", "XSS", "ブルートフォース", "セッション"]⟩]

/-- Transferring money. -/
def transferFeature : Feature where
  aliases := ["振込", "transfer"]
  scenarios :=
    [⟨"successful_transfer", ["正常", "成功", "振込完了"]⟩,
      ⟨"insufficient_balance", ["残高不足", "残高超過"]⟩,
      ⟨"limit", ["上限", "限度額", "最大"]⟩,
      ⟨"approval_flow", ["承認", "二重承認", "承認者"]⟩,
      ⟨"double_submit", ["二重送信", "二重振込", "冪等"]⟩]

/-- The log of what was done. -/
def auditFeature : Feature where
  aliases := ["監査ログ", "audit log"]
  scenarios :=
    [⟨"admin_role", ["admin", "管理者"]⟩,
      ⟨"auditor_role", ["auditor", "監査"]⟩,
      ⟨"customer_role", ["customer", "顧客", "一般ユーザ"]⟩,
      ⟨"permission_denied", ["権限なし", "アクセス拒否", "禁止", "403"]⟩]

/-- The features that are known; of several that fit a name, the first counts. -/
def features : List Feature :=
  [loginFeature, transferFeature, auditFeature]

/-- The feature of a name. -/
def Feature.ofName? (name : Text) : Option Feature :=
  features.find? fun feature =>
    feature.aliases.any fun part => Text.holds part (Text.lowercase name)

/-! ### Coverage -/

/-- What opens the section in which a report checks itself. -/
def selfCheckMark : Text :=
  "(D) 自己検証"

/-- Whether a text holds one of the words of a scenario. -/
def Scenario.isCovered (scenario : Scenario) (text : Text) : Bool :=
  scenario.words.any fun word => Text.holds word text

/-- What is missing from a report. -/
inductive CoverageGap where
  | scenario (missing : Scenario)
  | selfCheck
  deriving DecidableEq, Repr

/-- A gap in words. -/
def CoverageGap.message : CoverageGap → Text
  | .scenario missing =>
      "Missing scenario coverage: \"" ++ missing.key ++ "\" (expected one of: " ++
        Text.join ", " missing.words ++ ")"
  | .selfCheck => "Missing \"" ++ selfCheckMark ++ "\" section"

/-- What is missing from a report on a feature. -/
def Feature.gaps (feature : Feature) (text : Text) : List CoverageGap :=
  (feature.scenarios.filter fun scenario => !scenario.isCovered text).map .scenario ++
    (if Text.holds selfCheckMark text then [] else [.selfCheck])

/-- What is covered by a report on a feature, by key. -/
def Feature.coverage (feature : Feature) (text : Text) : List (Text × Bool) :=
  let ownSection : Text × Bool := ("self_validation_section", Text.holds selfCheckMark text)
  feature.scenarios.map (fun scenario => (scenario.key, scenario.isCovered text)) ++ [ownSection]

/-- The record of a check of a report on the named feature. -/
def coverageRecord (text name : Text) : Json :=
  match Feature.ofName? name with
  | none =>
      .object
        [("valid", .bool true),
          ("coverage",
            .object
              [Json.textField "note"
                ("No specific rule defined for feature: \"" ++ name ++ "\"")]),
          ("issues", .array [])]
  | some feature =>
      let gaps := feature.gaps text
      .object
        [("valid", .bool gaps.isEmpty),
          ("coverage",
            .object ((feature.coverage text).map fun (key, covered) => (key, .bool covered))),
          ("issues", Json.strings (gaps.map CoverageGap.message))]

end BrowserPlan.Report
