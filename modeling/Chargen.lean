import Chargen.Clip
import Chargen.Numeral
import Chargen.SortedMap
import Chargen.Text.Range
import Chargen.Text.Blank
import Chargen.Text.Mark
import Chargen.Text.Alphabetic
import Chargen.Text.LowerCase
import Chargen.Text.DecompositionTable
import Chargen.Text.Decomposition
import Chargen.Json
import Chargen.Json.Reader
import Chargen.Json.Record
import Chargen.Dice
import Chargen.Dice.Reader
import Chargen.Dice.Roll
import Chargen.Dice.Checked
import Chargen.Dice.WordStream
import Chargen.Characteristic
import Chargen.Profile
import Chargen.Age
import Chargen.Age.Adjustment
import Chargen.Age.Resolution
import Chargen.Vitals
import Chargen.Points.Split
import Chargen.Points.Tree
import Chargen.Points.Reader
import Chargen.Points.Formula
import Chargen.Points.Value
import Chargen.Points.Best
import Chargen.Points.Cache
import Chargen.Points.Numbered
import Chargen.Wealth
import Chargen.Wealth.Binary
import Chargen.Wealth.Money
import Chargen.SkillName
import Chargen.SkillName.Ordered
import Chargen.Rulebook.Entry
import Chargen.Review.Stage
import Chargen.Review.Issue
import Chargen.Fault
import Chargen.Rulebook.Document
import Chargen.Rulebook
import Chargen.Rulebook.Index
import Chargen.Rulebook.Standard
import Chargen.Rulebook.Loading
import Chargen.Spending
import Chargen.Spending.Run
import Chargen.Selection
import Chargen.Grant
import Chargen.Grant.InTurn
import Chargen.Draft
import Chargen.Draft.Document
import Chargen.Draft.Transition
import Chargen.Draft.InPlace
import Chargen.Draft.Run
import Chargen.SkillRow
import Chargen.Budget
import Chargen.Review
import Chargen.Review.InTurn
import Chargen.Sheet
import Chargen.Desk
import Chargen.Desk.Run
import Chargen.Proofs.SortedMap
import Chargen.Proofs.Numeral
import Chargen.Proofs.Text
import Chargen.Proofs.Text.CodeSet
import Chargen.Proofs.Text.Tables
import Chargen.Proofs.Text.Tidy
import Chargen.Proofs.Dice
import Chargen.Proofs.Dice.Grammar
import Chargen.Proofs.Dice.RoundTrip
import Chargen.Proofs.Dice.Totals
import Chargen.Proofs.Ageing
import Chargen.Proofs.Ageing.Block
import Chargen.Proofs.Ageing.Penalties
import Chargen.Proofs.Points.Parts
import Chargen.Proofs.Points.Atom
import Chargen.Proofs.Points.Grammar
import Chargen.Proofs.Points.Writing
import Chargen.Proofs.Points.Choice
import Chargen.Proofs.Points.Odometer
import Chargen.Proofs.Points.Best
import Chargen.Proofs.Points.Turns
import Chargen.Proofs.Points.Exact
import Chargen.Proofs.Points.Monotone
import Chargen.Proofs.Points.Fill
import Chargen.Proofs.Points.Filled
import Chargen.Proofs.Points.Numbered
import Chargen.Proofs.Points.Cache
import Chargen.Proofs.Wealth.Money
import Chargen.Proofs.SkillName
import Chargen.Proofs.SkillName.Alternatives
import Chargen.Proofs.SkillName.Offering
import Chargen.Proofs.SkillName.Fold
import Chargen.Proofs.SkillName.Stable
import Chargen.Proofs.Rulebook
import Chargen.Proofs.Rulebook.Lookup
import Chargen.Proofs.Loading
import Chargen.Proofs.Rulebook.Contradictions
import Chargen.Proofs.Rulebook.Index
import Chargen.Proofs.Spending
import Chargen.Proofs.Grant.Listing
import Chargen.Proofs.Grant.Catalog
import Chargen.Proofs.Grant.Picks
import Chargen.Proofs.SkillRow
import Chargen.Proofs.Json
import Chargen.Proofs.Document
import Chargen.Proofs.InPlace
import Chargen.Proofs.Review
import Chargen.Proofs.Rolling
import Chargen.Proofs.Run
import Chargen.Proofs.Sheet
import Chargen.Proofs.Sheet.Picks
import Chargen.Proofs.Finish
import Chargen.Proofs.Choices
import Chargen.Proofs.Stages
import Chargen.Proofs.Respelling
import Chargen.Proofs.SkillName.Distinct
import Chargen.Proofs.Grant.Kept
import Chargen.Proofs.Grant.Offered
import Chargen.Proofs.SkillRow.Base
import Chargen.Proofs.SkillRow.Account
import Chargen.Proofs.Spending.LastWrite
import Chargen.Proofs.Review.Kinds
import Chargen.Proofs.Review.Caps
import Chargen.Proofs.Review.Budgets
import Chargen.Proofs.Review.OpenChoices
import Chargen.Proofs.Desk
