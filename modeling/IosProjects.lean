import IosProjects.Library.Run
import IosProjects.Library.Grouping
import IosProjects.Library.Lists
import IosProjects.Library.Decimal
import IosProjects.Library.CivilDate
import IosProjects.Library.Checklist
import IosProjects.Library.ObservedRemove
import IosProjects.Library.WriteBack
import IosProjects.Library.Saga
import IosProjects.Library.Replica
import IosProjects.ChatApp.Message
import IosProjects.ChatApp.Inbox
import IosProjects.ChatApp.Chat
import IosProjects.ChatApp.Agreement
import IosProjects.ChatApp.ChatTable
import IosProjects.ChatApp.Register
import IosProjects.ChatApp.Replies
import IosProjects.ChatApp.InboxCells
import IosProjects.ChatApp.OwnRows
import IosProjects.TaskMaster.DateFormatter
import IosProjects.TaskMaster.Tasks
import IosProjects.TaskMaster.TaskView
import IosProjects.TaskMaster.ListView
import IosProjects.TaskMaster.Delete
import IosProjects.TaskMaster.Completed
import IosProjects.TaskMaster.Checkbox
import IosProjects.TaskMaster.App
import IosProjects.TaskMaster.Reloads
import IosProjects.TaskMaster.Tables
import IosProjects.TaskMaster.Cache
import IosProjects.TaskMaster.Calendar
import IosProjects.TaskMaster.Partition
import IosProjects.TaskMaster.Refresh
import IosProjects.TaskMaster.Sections
import IosProjects.BudgetApp.Amount
import IosProjects.BudgetApp.Expenses
import IosProjects.BudgetApp.ExpenseRuns
import IosProjects.BudgetApp.ExpenseDisplays
import IosProjects.BudgetApp.Budgets
import IosProjects.InstagramClone.Following
import IosProjects.InstagramClone.Convergence
import IosProjects.TravelList.Places
import IosProjects.TravelList.LostPlaces
import IosProjects.MealFinder.Recipes
import IosProjects.MealFinder.LastSearch
import IosProjects.TimerApp.Timer
import IosProjects.TodoList.Todos
import IosProjects.TodoList.NoLostUpdate
import IosProjects.BucketListHotels.Hotels
import IosProjects.InstagramClone.Feed
import IosProjects.Library.UnitOfWork
import IosProjects.CoreData.People
import IosProjects.InstagramClone.Refresh
import IosProjects.InstagramClone.UserRows
import IosProjects.MealFinder.RecipeTable
import IosProjects.ChatApp.Listeners
import IosProjects.Library.Marking
import IosProjects.TicTacToe.Board
import IosProjects.Library.Positional
import IosProjects.BudgetApp.TypedAmounts
import IosProjects.InstagramClone.Likes
import IosProjects.Library.UrlQuery
import IosProjects.MealFinder.SearchText
import IosProjects.Library.Elapsed
import IosProjects.ChatApp.DateUtils
import IosProjects.Library.SinceLoad
import IosProjects.TaskMaster.ClearCompleted
import IosProjects.ChatApp.ProfileImages
import IosProjects.InstagramClone.Checkmarks
import IosProjects.Library.Checkpoint
import IosProjects.TaskMaster.ContextChanges
import IosProjects.TaskMaster.Durability
import IosProjects.TaskMaster.GridRows
import IosProjects.TaskMaster.AddTask
import IosProjects.Library.Interleave
import IosProjects.InstagramClone.Posting
import IosProjects.InstagramClone.PostedFeed
import IosProjects.ChatApp.Devices
import IosProjects.ChatApp.DeviceChats
import IosProjects.ChatApp.UsersList
import IosProjects.InstagramClone.FollowedFeed
import IosProjects.TicTacToe.Referee
import IosProjects.BudgetApp.App
import IosProjects.WeatherApp.Weather
import IosProjects.TimerApp.Display
import IosProjects.TaskMaster.GridCells
import IosProjects.Library.ViewPool
import IosProjects.BucketListHotels.Rows
import IosProjects.Library.LateLoads
import IosProjects.InstagramClone.FeedPictures
import IosProjects.MealFinder.RecipeCells
import IosProjects.CoreData.Launches
