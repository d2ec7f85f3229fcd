import BenefitScreen.Cache.Flight
import BenefitScreen.Configuration.Shipped
import BenefitScreen.Date.Text
import BenefitScreen.Deployment
import BenefitScreen.Evaluation
import BenefitScreen.Wire.Configuration
import BenefitScreen.Wire.Outcome
import BenefitScreen.Proofs.Acceptance
import BenefitScreen.Proofs.CachedAnswers
import BenefitScreen.Proofs.CopayBoundary
import BenefitScreen.Proofs.CycleSearch
import BenefitScreen.Proofs.DocumentConflicts
import BenefitScreen.Proofs.DocumentFormat
import BenefitScreen.Proofs.FieldAgreement
import BenefitScreen.Proofs.HealthRules
import BenefitScreen.Proofs.HouseholdFormat
import BenefitScreen.Proofs.InputReads
import BenefitScreen.Proofs.Invalidation
import BenefitScreen.Proofs.ListingOrder
import BenefitScreen.Proofs.Outage
import BenefitScreen.Proofs.OutcomeFormat
import BenefitScreen.Proofs.ProgramReads
import BenefitScreen.Proofs.ProgramValue
import BenefitScreen.Proofs.ReferenceCycles
import BenefitScreen.Proofs.ReportedReads
import BenefitScreen.Proofs.DocumentContent
import BenefitScreen.Proofs.FirstCome
import BenefitScreen.Proofs.StableOrder
import BenefitScreen.Proofs.ClaimedChildren
import BenefitScreen.Proofs.SecondReturn
import BenefitScreen.Proofs.MedicaidRouting
import BenefitScreen.Proofs.PaidEligibility
import BenefitScreen.Proofs.AmountProduct
import BenefitScreen.Proofs.PovertyChecks
import BenefitScreen.Proofs.PrivateCall
import BenefitScreen.Proofs.EngineFallback
import BenefitScreen.Proofs.TokenRetry
import BenefitScreen.Proofs.AmountValue
import BenefitScreen.Proofs.IncomeDisregards
import BenefitScreen.Proofs.IncomeTotals
import BenefitScreen.Proofs.IncomePartition
import BenefitScreen.Proofs.PlacedAmounts
import BenefitScreen.Proofs.HeatingNeed
import BenefitScreen.Proofs.CountySheet
import BenefitScreen.Proofs.LimitFailures
import BenefitScreen.Proofs.HudCells
import BenefitScreen.Proofs.RelistedResults
import BenefitScreen.Proofs.CountySpelling
import BenefitScreen.Proofs.MissingOutputs
import BenefitScreen.Proofs.RecordedConditions
import BenefitScreen.Proofs.CoupleSymmetry
import BenefitScreen.Proofs.RealisticMoney
