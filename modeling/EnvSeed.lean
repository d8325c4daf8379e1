import EnvSeed.Main
import EnvSeed.Proofs.Files.Writing
import EnvSeed.Proofs.Files.Following
import EnvSeed.Proofs.Seeding.Stages
import EnvSeed.Proofs.Command.Stages
import EnvSeed.Proofs.Seeding.Atomicity
import EnvSeed.Proofs.Seeding.History
import EnvSeed.Proofs.Seeding.Stacking
import EnvSeed.Proofs.Dotenv.Reading
import EnvSeed.Proofs.Dotenv.Assignment
import EnvSeed.Proofs.Text.Leftmost
import EnvSeed.Proofs.Text.Occurrences
import EnvSeed.Proofs.Dotenv.Yields
import EnvSeed.Proofs.Seeding.Expanding
import EnvSeed.Proofs.Seeding.DefinedKey
import EnvSeed.Proofs.Dotenv.Faults
import EnvSeed.Proofs.Seeding.Secrecy
import EnvSeed.Proofs.Files.Evolution
import EnvSeed.Proofs.Seeding.Session
import EnvSeed.Proofs.Text.Lines
import EnvSeed.Proofs.Text.Trimming
import EnvSeed.Proofs.Files.Agreement
import EnvSeed.Proofs.Seeding.KeyGrammar
import EnvSeed.Proofs.Seeding.KeyLayout
import EnvSeed.Proofs.Seeding.KeyValues
import EnvSeed.Proofs.Seeding.Paired
import EnvSeed.Proofs.Seeding.StoredKey
import EnvSeed.Proofs.Seeding.Disclosure
import EnvSeed.Proofs.Environment
import EnvSeed.Proofs.Dotenv.Variables
import EnvSeed.Proofs.Seeding.Environments
import EnvSeed.Proofs.Command.EmptyVariable
import EnvSeed.Proofs.Files.Footprint
import EnvSeed.Proofs.Command.FirstFailure
import EnvSeed.Proofs.Command.LevelOption
import EnvSeed.Proofs.Command.LogLevel
import EnvSeed.Proofs.Plan.Sources
import EnvSeed.Proofs.Seeding.Unmarked
import EnvSeed.Proofs.Dotenv.Entries
import EnvSeed.Proofs.Dotenv.Literal
import EnvSeed.Proofs.Seeding.AppendedCheck
import EnvSeed.Proofs.Seeding.CheckedKey
import EnvSeed.Proofs.Text.Pieces
import EnvSeed.Proofs.Seeding.SingleLine
import EnvSeed.Proofs.Command.KeyMaterial
import EnvSeed.Proofs.Dotenv.Splicing
import EnvSeed.Proofs.Plan.HomePaths
import EnvSeed.Proofs.Seeding.EventTrace
import EnvSeed.Proofs.Toml.Spelling
import EnvSeed.Proofs.Plan.KnownKeys
import EnvSeed.Proofs.Command.LevelSpelling
import EnvSeed.Proofs.Seeding.ReadBack
import EnvSeed.Proofs.Command.Choices
