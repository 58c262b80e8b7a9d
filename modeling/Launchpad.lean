import Launchpad.Application
import Launchpad.Arguments
import Launchpad.Banner
import Launchpad.Bean
import Launchpad.Binding
import Launchpad.Bootstrap.Basic
import Launchpad.Bootstrap.Closing
import Launchpad.Bootstrap.Operations
import Launchpad.Call
import Launchpad.Catalog
import Launchpad.Command
import Launchpad.Container.Basic
import Launchpad.Container.Exit
import Launchpad.Container.Operations
import Launchpad.Datum
import Launchpad.Environment.Basic
import Launchpad.Environment.Source
import Launchpad.Environment.Sources
import Launchpad.Environment.Template
import Launchpad.Event
import Launchpad.ExitCode
import Launchpad.Failure.Basic
import Launchpad.Failure.Message
import Launchpad.Files
import Launchpad.Greeting.Basic
import Launchpad.Greeting.Behaviour
import Launchpad.Greeting.CommandLine
import Launchpad.Handle
import Launchpad.Kind
import Launchpad.Launch.Banner
import Launchpad.Launch.Errand
import Launchpad.Launch.Instances
import Launchpad.Launch.Plan
import Launchpad.Launch.Preparation
import Launchpad.Launch.Run
import Launchpad.Lifecycle.Bus
import Launchpad.Lifecycle.Listener
import Launchpad.Log
import Launchpad.Main
import Launchpad.Measurement
import Launchpad.Participant
import Launchpad.Phase
import Launchpad.Precedence
import Launchpad.Proofs.Bootstrap.Account
import Launchpad.Proofs.Bootstrap.Bookkeeping
import Launchpad.Proofs.Bootstrap.Chronicle
import Launchpad.Proofs.Bootstrap.Closure
import Launchpad.Proofs.Bootstrap.Conduct
import Launchpad.Proofs.Bootstrap.Discipline
import Launchpad.Proofs.Bootstrap.Handover
import Launchpad.Proofs.Bootstrap.History
import Launchpad.Proofs.Bootstrap.Passage
import Launchpad.Proofs.Bootstrap.Recording
import Launchpad.Proofs.Bootstrap.Sharing
import Launchpad.Proofs.Catalog.Instantiation
import Launchpad.Proofs.Catalog.Precedence
import Launchpad.Proofs.Container.Activity
import Launchpad.Proofs.Container.Announcement
import Launchpad.Proofs.Container.Ending
import Launchpad.Proofs.Container.ExitCodes
import Launchpad.Proofs.Container.Finality
import Launchpad.Proofs.Container.Life
import Launchpad.Proofs.Container.Loading
import Launchpad.Proofs.Container.Moments
import Launchpad.Proofs.Container.Registry
import Launchpad.Proofs.Container.Sealing
import Launchpad.Proofs.Container.Stages
import Launchpad.Proofs.Environment.Binding
import Launchpad.Proofs.Environment.CommandLine
import Launchpad.Proofs.Environment.Defaults
import Launchpad.Proofs.Environment.Layers
import Launchpad.Proofs.Environment.Names
import Launchpad.Proofs.Environment.Options
import Launchpad.Proofs.Environment.References
import Launchpad.Proofs.Environment.Retention
import Launchpad.Proofs.Environment.Written
import Launchpad.Proofs.Greeting.CommandLine
import Launchpad.Proofs.Greeting.Echo
import Launchpad.Proofs.Greeting.Environment
import Launchpad.Proofs.Greeting.Given
import Launchpad.Proofs.Greeting.Launch
import Launchpad.Proofs.Greeting.Outcome
import Launchpad.Proofs.Greeting.Participants
import Launchpad.Proofs.Launch.Aftermath
import Launchpad.Proofs.Launch.Announcements
import Launchpad.Proofs.Launch.Arrangement
import Launchpad.Proofs.Launch.Attachment
import Launchpad.Proofs.Launch.Confinement
import Launchpad.Proofs.Launch.Conversation
import Launchpad.Proofs.Launch.Execution
import Launchpad.Proofs.Launch.ExitCodes
import Launchpad.Proofs.Launch.FailureNews
import Launchpad.Proofs.Launch.Following
import Launchpad.Proofs.Launch.Itinerary
import Launchpad.Proofs.Launch.Landmarks
import Launchpad.Proofs.Launch.Order
import Launchpad.Proofs.Launch.Preparation
import Launchpad.Proofs.Launch.Profiles
import Launchpad.Proofs.Launch.Publisher
import Launchpad.Proofs.Launch.Record
import Launchpad.Proofs.Launch.Registration
import Launchpad.Proofs.Launch.Reporting
import Launchpad.Proofs.Launch.Runners
import Launchpad.Proofs.Launch.Shown
import Launchpad.Proofs.Launch.Stages
import Launchpad.Proofs.Launch.Standing
import Launchpad.Proofs.Launch.Tracking
import Launchpad.Proofs.Lifecycle.Delivery
import Launchpad.Proofs.Lifecycle.Dispatching
import Launchpad.Proofs.Lifecycle.Hearing
import Launchpad.Proofs.Operation.Calling
import Launchpad.Proofs.Operation.Closing
import Launchpad.Proofs.Operation.Commanding
import Launchpad.Proofs.Operation.Coordinating
import Launchpad.Proofs.Operation.Framing
import Launchpad.Proofs.Operation.Keeping
import Launchpad.Proofs.Operation.Sequence
import Launchpad.Proofs.Operation.Storing
import Launchpad.Proofs.Operation.Yielding
import Launchpad.Proofs.Shutdown.Conformance
import Launchpad.Proofs.Shutdown.Deregistration
import Launchpad.Proofs.Shutdown.Emptying
import Launchpad.Proofs.Shutdown.Exclusion
import Launchpad.Proofs.Shutdown.Once
import Launchpad.Proofs.Shutdown.Rearming
import Launchpad.Proofs.Shutdown.Reentrancy
import Launchpad.Proofs.Shutdown.Registration
import Launchpad.Proofs.Shutdown.Removal
import Launchpad.Proofs.Shutdown.Schedule
import Launchpad.Proofs.Shutdown.Sparing
import Launchpad.Proofs.Shutdown.Tidiness
import Launchpad.Properties
import Launchpad.Role
import Launchpad.Scenario.Behaviour
import Launchpad.Scenario.Container
import Launchpad.Scenario.Coordinator
import Launchpad.Scenario.Environment
import Launchpad.Scenario.Failure
import Launchpad.Scenario.Participant
import Launchpad.Scenario.Script
import Launchpad.Scenario.Shown
import Launchpad.Scenario.Store
import Launchpad.Settings
import Launchpad.Shutdown.Basic
import Launchpad.Shutdown.Operations
import Launchpad.Source
import Launchpad.Startup
import Launchpad.Text.Blank
import Launchpad.Text.Printable
import Launchpad.Text.Quoted
import Launchpad.Text.Separated
import Launchpad.World
